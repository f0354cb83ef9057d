import NplLifecycle.Session.Call

/-!
# Quiet sessions

A session asks for connections only through its owner's start and through its steward.  Once both
are gone it is quiet for ever: whatever its readers still do, it asks for nothing more.  A stop that
has ended and a start that has failed leave a session quiet.
-/

namespace NplLifecycle.Session

/-- Nobody keeps the session connected, and its owner waits for nothing. -/
def Quiet (session : Session) : Prop :=
  session.stewards = [] ∧ session.call = .idle

/-- The only steward is the one that a stop would end, and there is none while a start still waits
for a connection. -/
def Sole (session : Session) : Prop :=
  (∀ steward ∈ session.stewards, session.steward = some steward.id) ∧
    (session.call = .connecting → session.stewards = [])

/-- Has the session asked for a connection that has not come yet? -/
def awaits (session : Session) : Asker → Bool
  | .start => session.call = .connecting
  | .steward id => (session.steward? id).any (·.stage = .reconnecting)

def Effect.isConnect : Effect → Bool
  | .connect _ => true
  | _ => false

/-- Does an effect say how a start or a stop went? -/
def Effect.isVerdict : Effect → Bool
  | .started _ | .stopped _ => true
  | _ => false

/-- Does an effect say that the session is over: a stop has ended, or a start has failed? -/
def Effect.isEnd : Effect → Bool
  | .stopped _ | .started (.error _) => true
  | _ => false

/-- A session got on without its owner's call, and no steward was added. -/
structure Tame (before after : Session) : Prop where
  call : after.call = before.call
  steward : after.steward = before.steward
  stewards : ∀ steward ∈ after.stewards, ∃ old ∈ before.stewards, old.id = steward.id

/-- A steward or a reader got on: it says nothing about its owner's call, and only a steward asks
for a connection. -/
structure Works (session : Session) (outcome : Session × List Effect) : Prop where
  tame : Tame session outcome.1
  effects : ∀ effect ∈ outcome.2, effect.isVerdict = false ∧
    (effect.isConnect = true → session.stewards ≠ [])

/-- What a session does by itself, or with a connection that it has asked for. -/
def Evolves (session : Session) (outcome : Session × List Effect) : Prop :=
  (∃ around task, session.step around task = some outcome) ∨
    ∃ asker result, session.awaits asker = true ∧ session.supply asker result = outcome

section Taming

variable {before middle after session : Session} {around : Surroundings}
  {outcome : Session × List Effect}

theorem Tame.refl (session : Session) : Tame session session :=
  ⟨rfl, rfl, fun steward hmem => ⟨steward, hmem, rfl⟩⟩

theorem Tame.trans (hfirst : Tame before middle) (hsecond : Tame middle after) :
    Tame before after where
  call := hsecond.call.trans hfirst.call
  steward := hsecond.steward.trans hfirst.steward
  stewards := by
    intro steward hmem
    obtain ⟨old, hold, hid⟩ := hsecond.stewards steward hmem
    obtain ⟨older, holder, hid'⟩ := hfirst.stewards old hold
    exact ⟨older, holder, hid'.trans hid⟩

theorem Tame.stewards_eq_nil (htame : Tame before after) (hnone : before.stewards = []) :
    after.stewards = [] := by
  rw [List.eq_nil_iff_forall_not_mem]
  intro steward hmem
  obtain ⟨old, hold, -⟩ := htame.stewards steward hmem
  rw [hnone] at hold
  exact absurd hold List.not_mem_nil

theorem Tame.sole (htame : Tame before after) (hsole : before.Sole) : after.Sole := by
  constructor
  · intro steward hmem
    obtain ⟨old, hold, hid⟩ := htame.stewards steward hmem
    rw [htame.steward, ← hid]
    exact hsole.1 old hold
  · intro hcall
    exact htame.stewards_eq_nil (hsole.2 (htame.call.symm.trans hcall))

/-- What changes neither the owner's call nor the stewards is tame. -/
theorem tame_of_eq (hcall : after.call = before.call) (hsteward : after.steward = before.steward)
    (hstewards : after.stewards = before.stewards) : Tame before after :=
  ⟨hcall, hsteward, fun steward hmem => ⟨steward, hstewards ▸ hmem, rfl⟩⟩

theorem tame_dropSteward (id : StewardId) : Tame session (session.dropSteward id) :=
  ⟨rfl, rfl, fun steward hmem => ⟨steward, (List.mem_filter.mp hmem).1, rfl⟩⟩

theorem tame_setSteward (steward : Steward) : Tame session (session.setSteward steward) := by
  refine ⟨rfl, rfl, ?_⟩
  intro changed hmem
  obtain ⟨old, hold, rfl⟩ := List.mem_map.mp hmem
  refine ⟨old, hold, ?_⟩
  split
  · assumption
  · rfl

theorem tame_close : Tame session session.close.1 :=
  tame_of_eq rfl rfl rfl

theorem tame_request (method : String) (params : Json) :
    Tame session (session.request around method params).1 := by
  simp only [request]
  split
  · exact tame_of_eq rfl rfl rfl
  · exact tame_of_eq rfl rfl rfl

theorem tame_poll {method : String} {id : RequestId} {deadline timeout : Nat}
    {answered : Session × Except ClientError Response}
    (hpoll : session.poll around method id deadline timeout = some answered) :
    Tame session answered.1 := by
  simp only [poll] at hpoll
  split at hpoll
  · rw [← Option.some.inj hpoll]
    exact tame_of_eq rfl rfl rfl
  · rw [← Option.some.inj hpoll]
    exact tame_of_eq rfl rfl rfl
  · obtain ⟨-, hpoll⟩ := Option.ite_none_right_eq_some.mp hpoll
    rw [← Option.some.inj hpoll]
    exact tame_of_eq rfl rfl rfl

/-- A message that goes out is no verdict, and asks for no connection. -/
theorem send_plain {message : Message} {effect : Effect}
    (hsend : session.send around message = .ok effect) :
    effect.isVerdict = false ∧ effect.isConnect = false := by
  simp only [send] at hsend
  split at hsend
  · exact absurd hsend (by simp)
  · split at hsend
    · exact absurd hsend (by simp)
    · rw [← Except.ok.inj hsend]
      exact ⟨rfl, rfl⟩

theorem request_plain {method : String} {params : Json} {id : RequestId} {effect : Effect}
    {next : Session} (hrequest : session.request around method params = (next, .ok (id, effect))) :
    effect.isVerdict = false ∧ effect.isConnect = false := by
  simp only [request] at hrequest
  split at hrequest
  · simp at hrequest
  · rename_i sent hsend
    simp only [Prod.mk.injEq, Except.ok.injEq] at hrequest
    rw [← hrequest.2.2]
    exact send_plain hsend

end Taming

namespace Works

variable {middle session : Session} {around : Surroundings} {outcome : Session × List Effect}

/-- Effects of which none is a verdict or the wish for a connection. -/
theorem of_plain (htame : Tame session outcome.1)
    (hplain : ∀ effect ∈ outcome.2, effect.isVerdict = false ∧ effect.isConnect = false) :
    Works session outcome where
  tame := htame
  effects := by
    intro effect hmem
    obtain ⟨hverdict, hconnect⟩ := hplain effect hmem
    exact ⟨hverdict, by simp [hconnect]⟩

theorem after (htame : Tame session middle) (hworks : Works middle outcome) :
    Works session outcome where
  tame := htame.trans hworks.tame
  effects := by
    intro effect hmem
    obtain ⟨hverdict, hconnect⟩ := hworks.effects effect hmem
    exact ⟨hverdict, fun hwish hnone => hconnect hwish (htame.stewards_eq_nil hnone)⟩

/-- One more effect, which is no verdict and asks for no connection. -/
theorem cons (hworks : Works session outcome) {effect : Effect}
    (hplain : effect.isVerdict = false ∧ effect.isConnect = false) :
    Works session (outcome.1, effect :: outcome.2) where
  tame := hworks.tame
  effects := by
    intro other hmem
    rcases List.mem_cons.mp hmem with rfl | hmem
    · exact ⟨hplain.1, by simp [hplain.2]⟩
    · exact hworks.effects other hmem

theorem close : Works session session.close := by
  refine of_plain tame_close ?_
  intro effect hmem
  simp only [Session.close, Option.mem_toList, Option.map_eq_some_iff] at hmem
  obtain ⟨connection, -, rfl⟩ := hmem
  exact ⟨rfl, rfl⟩

end Works

/-- What must be so of a reader that does something in its next turn. -/
def Reading.Fits (around : Surroundings) (reader : Reader) : Reading → Prop
  | .quit => reader.isCancelled = true
  | .handle outcome rest =>
    reader.isCancelled = false ∧ Frame.next? reader.buffer = some (outcome, rest)
  | .take arrival =>
    reader.isCancelled = false ∧ Frame.next? reader.buffer = none ∧
      around.arrival reader.connection = some arrival

section Readers

variable {session : Session} {around : Surroundings} {outcome : Session × List Effect}
  {reader : Reader} {reading : Reading} {connection : ConnectionId}

/-- A reader does something exactly if it has not ended and that fits to it. -/
theorem reading?_eq_some :
    session.reading? around connection = some (reader, reading) ↔
      session.reader? connection = some reader ∧ reader.exit = none ∧
        reading.Fits around reader := by
  have hwhere (hreader : session.reader? connection = some reader) :
      reader.connection = connection := by
    simpa using List.find?_some hreader
  rw [reading?, Option.bind_eq_some_iff]
  constructor
  · rintro ⟨found, hfilter, hreading⟩
    obtain ⟨hreader, hexit⟩ := Option.filter_eq_some_iff.mp hfilter
    have hexit : found.exit = none := by simpa using hexit
    cases hcancelled : found.isCancelled with
    | true =>
        simp only [hcancelled, if_true, Option.some.injEq, Prod.mk.injEq] at hreading
        obtain ⟨rfl, rfl⟩ := hreading
        exact ⟨hreader, hexit, hcancelled⟩
    | false =>
        simp only [hcancelled, Bool.false_eq_true, if_false] at hreading
        split at hreading
        · rename_i hframe
          obtain ⟨rfl, rfl⟩ := Prod.mk.inj (Option.some.inj hreading)
          exact ⟨hreader, hexit, hcancelled, hframe⟩
        · rename_i hframe
          obtain ⟨arrival, harrival, hsame⟩ := Option.map_eq_some_iff.mp hreading
          obtain ⟨rfl, rfl⟩ := Prod.mk.inj hsame
          exact ⟨hreader, hexit, hcancelled, hframe, (hwhere hreader).symm ▸ harrival⟩
  · rintro ⟨hreader, hexit, hfits⟩
    refine ⟨reader, Option.filter_eq_some_iff.mpr ⟨hreader, by simp [hexit]⟩, ?_⟩
    cases reading with
    | quit => exact if_pos hfits
    | handle found rest => simp only [hfits.1, hfits.2, Bool.false_eq_true, if_false]
    | take arrival =>
        rw [← hwhere hreader]
        simp only [hfits.1, hfits.2.1, hfits.2.2, Bool.false_eq_true, if_false, Option.map_some]

/-- A turn of a reader is what it does next. -/
theorem stepReader_eq_some :
    session.stepReader around connection = some outcome ↔ ∃ reader reading,
      session.reading? around connection = some (reader, reading) ∧
        outcome = session.read around reader reading := by
  rw [stepReader, Option.map_eq_some_iff]
  constructor
  · rintro ⟨⟨reader, reading⟩, hreading, hread⟩
    exact ⟨reader, reading, hreading, hread.symm⟩
  · rintro ⟨reader, reading, hreading, hread⟩
    exact ⟨(reader, reading), hreading, hread.symm⟩

theorem works_setReader (reader : Reader) {effects : List Effect}
    (hplain : ∀ effect ∈ effects, effect.isVerdict = false ∧ effect.isConnect = false) :
    Works session (session.setReader reader, effects) :=
  .of_plain (tame_of_eq rfl rfl rfl) hplain

theorem works_dispatch (message : Message) : Works session (session.dispatch around message) := by
  cases message with
  | response response =>
      simp only [dispatch, handleResponse]
      split
      · exact .of_plain (.refl session) (by simp [Effect.isVerdict, Effect.isConnect])
      · split
        · exact .of_plain (tame_of_eq rfl rfl rfl) (by simp)
        · exact .of_plain (.refl session) (by simp [Effect.isVerdict, Effect.isConnect])
  | request request =>
      refine .of_plain (.refl session) ?_
      intro effect hmem
      cases List.mem_append.mp hmem with
      | inl hline =>
          obtain ⟨line, -, rfl⟩ := List.mem_map.mp hline
          exact ⟨rfl, rfl⟩
      | inr hanswer =>
          split at hanswer
          · rename_i sent hsend
            rw [List.mem_singleton.mp hanswer]
            exact send_plain hsend
          · rw [List.mem_singleton.mp hanswer]
            exact ⟨rfl, rfl⟩
  | notification notification => exact .of_plain (.refl session) (by simp [dispatch])

theorem works_readFrame (reader : Reader) (found : Frame.Outcome) (rest : List UInt8) :
    Works session (session.readFrame around reader found rest) := by
  cases found with
  | error fault => exact works_setReader _ (by simp [Effect.isVerdict, Effect.isConnect])
  | ok body =>
      simp only [readFrame]
      cases Message.decode body with
      | error error => exact works_setReader _ (by simp [Effect.isVerdict, Effect.isConnect])
      | ok message =>
          have htame : Tame session (session.setReader { reader with buffer := rest }) :=
            tame_of_eq rfl rfl rfl
          exact Works.after htame (works_dispatch message)

theorem works_readArrival (reader : Reader) (arrival : Arrival) :
    Works session (session.readArrival around reader arrival) := by
  cases arrival <;> exact works_setReader _ (by simp [Effect.isVerdict, Effect.isConnect])

theorem works_stepReader (hstep : session.stepReader around connection = some outcome) :
    Works session outcome := by
  obtain ⟨reader, reading, -, rfl⟩ := stepReader_eq_some.mp hstep
  cases reading with
  | quit => exact works_setReader _ (by simp)
  | handle found rest => exact works_readFrame reader found rest
  | take arrival => exact works_readArrival reader arrival

end Readers

section Stewards

variable {session : Session} {around : Surroundings} {outcome : Session × List Effect}

theorem works_failGreeting (steward : Steward) (connection : ConnectionId)
    (failure : ClientError) : Works session (session.failGreeting steward connection failure) := by
  have hcancelled : Tame session (session.cancelReader connection) := tame_of_eq rfl rfl rfl
  have hclosed : Works session
      (((session.cancelReader connection).close.1.dropSteward steward.id),
        (session.cancelReader connection).close.2) :=
    .after hcancelled ⟨tame_close.trans (tame_dropSteward steward.id), Works.close.effects⟩
  simp only [failGreeting]
  split
  · exact hclosed.cons ⟨rfl, rfl⟩
  · exact ⟨hclosed.tame.trans (tame_of_eq rfl rfl rfl), hclosed.effects⟩

theorem works_attach (steward : Steward) (connection : ConnectionId) :
    Works session (session.attach steward connection) := by
  have hwriter : Tame session { session with writer := some connection, alive := true } :=
    tame_of_eq rfl rfl rfl
  refine .of_plain (hwriter.trans (tame_setSteward _)) ?_
  intro effect hmem
  simp only [attach, Option.mem_toList, Option.map_eq_some_iff] at hmem
  obtain ⟨previous, -, rfl⟩ := hmem
  exact ⟨rfl, rfl⟩

theorem works_listen (steward : Steward) (connection : ConnectionId) :
    Works session (session.listen steward connection) := by
  simp only [listen]
  split
  · refine .of_plain (Tame.trans ?_ (tame_setSteward _)) (by simp)
    exact tame_of_eq rfl rfl rfl
  · refine .of_plain (Tame.trans ?_ (tame_setSteward _)) (by simp)
    exact tame_of_eq rfl rfl rfl

theorem works_greet (steward : Steward) (connection : ConnectionId) :
    Works session (session.greet around steward connection) := by
  simp only [greet]
  split
  · exact works_failGreeting steward connection _
  · rename_i params _
    have hrequest : Tame session (session.request around greetingMethod params).1 :=
      tame_request greetingMethod params
    split
    · rename_i next failure hnext
      rw [hnext] at hrequest
      exact .after hrequest (works_failGreeting steward connection failure)
    · rename_i next id effect hnext
      rw [hnext] at hrequest
      refine .of_plain (hrequest.trans (tame_setSteward _)) ?_
      intro sent hmem
      rw [List.mem_singleton.mp hmem]
      exact request_plain hnext

theorem works_concludeGreeting (steward : Steward) (connection : ConnectionId)
    (answer : Except ClientError Response) :
    Works session (session.concludeGreeting around steward connection answer) := by
  simp only [concludeGreeting]
  split
  · exact works_failGreeting steward connection _
  · rename_i welcome effect hconfirmed
    have hplain : effect.isVerdict = false ∧ effect.isConnect = false := by
      cases hwelcome : welcomeOf answer with
      | error failure => simp [hwelcome, Except.bind] at hconfirmed
      | ok found =>
          cases hnotify : session.notify around "initialized" (.obj []) with
          | error failure => simp [hwelcome, hnotify, Except.bind, Except.map] at hconfirmed
          | ok sent =>
              simp only [hwelcome, hnotify, Except.bind, Except.map, Except.ok.injEq,
                Prod.mk.injEq] at hconfirmed
              rw [← hconfirmed.2]
              exact send_plain hnotify
    split
    · refine .of_plain (tame_setSteward _) ?_
      intro other hmem
      rcases List.mem_cons.mp hmem with rfl | hmem
      · exact hplain
      · rw [List.mem_singleton.mp hmem]
        exact ⟨rfl, rfl⟩
    · refine .of_plain ((tame_setSteward _).trans (tame_of_eq rfl rfl rfl)) ?_
      intro other hmem
      rw [List.mem_singleton.mp hmem]
      exact hplain

theorem works_reconnect {steward : Steward} (hmem : session.stewards ≠ []) :
    Works session (session.reconnect steward) := by
  simp only [reconnect]
  split
  · exact .of_plain (tame_dropSteward _) (by simp [Effect.isVerdict, Effect.isConnect])
  · refine ⟨tame_setSteward _, ?_⟩
    intro effect heffect
    simp only [List.mem_cons, List.not_mem_nil, or_false] at heffect
    rcases heffect with rfl | rfl
    · exact ⟨rfl, fun _ => hmem⟩
    · exact ⟨rfl, fun _ => hmem⟩

theorem works_concludeLoss {steward : Steward} (hmem : session.stewards ≠ [])
    (exit : ReaderExit) : Works session (session.concludeLoss around steward exit) := by
  simp only [concludeLoss]
  split
  · exact .of_plain (tame_dropSteward _) (by simp)
  · cases exit with
    | aborted => exact .of_plain (tame_dropSteward _) (by simp [Effect.isVerdict, Effect.isConnect])
    | closed =>
        cases around.decide .closed with
        | abort =>
            exact .of_plain (tame_dropSteward _) (by simp [Effect.isVerdict, Effect.isConnect])
        | proceed => exact (works_reconnect hmem).cons ⟨rfl, rfl⟩

theorem works_stepSteward {id : StewardId}
    (hstep : session.stepSteward around id = some outcome) :
    Works session outcome ∧ session.stewards ≠ [] := by
  obtain ⟨steward, hsteward, hstep⟩ := Option.bind_eq_some_iff.mp hstep
  have hmem : session.stewards ≠ [] := List.ne_nil_of_mem (List.mem_of_find?_eq_some hsteward)
  refine ⟨?_, hmem⟩
  cases hstage : steward.stage with
  | connected connection =>
      simp only [hstage, Option.some.injEq] at hstep
      rw [← hstep]
      exact works_attach steward connection
  | attached connection =>
      simp only [hstage, Option.some.injEq] at hstep
      rw [← hstep]
      exact works_listen steward connection
  | listening connection =>
      simp only [hstage, Option.some.injEq] at hstep
      rw [← hstep]
      exact works_greet steward connection
  | greeting connection request deadline =>
      simp only [hstage, Option.map_eq_some_iff] at hstep
      obtain ⟨answered, hpoll, hstep⟩ := hstep
      rw [← hstep]
      exact .after (tame_poll hpoll) (works_concludeGreeting steward connection answered.2)
  | serving connection =>
      simp only [hstage, Option.map_eq_some_iff] at hstep
      obtain ⟨exit, -, hstep⟩ := hstep
      rw [← hstep]
      exact ⟨tame_close.trans (tame_setSteward _), Works.close.effects⟩
  | bereft exit =>
      simp only [hstage, Option.some.injEq] at hstep
      rw [← hstep]
      exact works_concludeLoss hmem exit
  | reconnecting => simp [hstage] at hstep

theorem tame_supplySteward (id : StewardId) (connection : Option ConnectionId) :
    Tame session (session.supplySteward id connection) := by
  simp only [supplySteward]
  split
  · exact tame_setSteward _
  · exact tame_dropSteward _

end Stewards

section Calls

variable {session : Session} {around : Surroundings} {outcome : Session × List Effect}
  {effect : Effect}

theorem sole_of_nil (hnone : session.stewards = []) : session.Sole := by
  refine ⟨?_, fun _ => hnone⟩
  intro steward hmem
  rw [hnone] at hmem
  exact absurd hmem List.not_mem_nil

/-- To end the steward that belongs to the last start is to end them all. -/
theorem Sole.abandonTasks_stewards (hsole : session.Sole) :
    session.abandonTasks.stewards = [] := by
  rw [List.eq_nil_iff_forall_not_mem]
  intro steward hmem
  cases hlast : session.steward with
  | none =>
      have hkept : session.abandonTasks.stewards = session.stewards := by
        simp only [abandonTasks, hlast]
        cases session.reader <;> rfl
      rw [hkept] at hmem
      have hsome := hsole.1 steward hmem
      rw [hlast] at hsome
      exact absurd hsome (by simp)
  | some id =>
      have hdropped : session.abandonTasks.stewards = (session.dropSteward id).stewards := by
        simp only [abandonTasks, hlast]
        cases (session.dropSteward id).reader <;> rfl
      rw [hdropped] at hmem
      obtain ⟨hold, hne⟩ := List.mem_filter.mp hmem
      have hsome := hsole.1 steward hold
      rw [hlast] at hsome
      simp [Option.some.inj hsome] at hne

theorem abandonTasks_call (session : Session) : session.abandonTasks.call = session.call := by
  cases hlast : session.steward with
  | none =>
      simp only [abandonTasks, hlast]
      cases session.reader <;> rfl
  | some id =>
      simp only [abandonTasks, hlast]
      cases (session.dropSteward id).reader <;> rfl

theorem Sole.abandon (hsole : session.Sole) : session.abandon.1.stewards = [] :=
  hsole.abandonTasks_stewards

theorem Sole.concludeStop (hsole : session.Sole) (result : Except ClientError Unit) :
    (session.concludeStop result).1.Quiet :=
  ⟨hsole.abandonTasks_stewards, rfl⟩

theorem Sole.concludeShutdown (hsole : session.Sole) (answer : Except ClientError Response) :
    (session.concludeShutdown around answer).1.Quiet := by
  simp only [Session.concludeShutdown]
  split
  · exact hsole.concludeStop _
  · exact hsole.concludeStop (.ok ())

/-- A session whose owner waits for nothing is only worked on. -/
theorem Evolves.works (hevolves : Evolves session outcome) (hidle : session.call = .idle) :
    Works session outcome := by
  rcases hevolves with ⟨around, task, hstep⟩ | ⟨asker, result, hawaits, hsupply⟩
  · cases task with
    | call => simp [step, stepCall, hidle] at hstep
    | steward id => exact (works_stepSteward hstep).1
    | reader connection => exact works_stepReader hstep
  · cases asker with
    | start => simp [awaits, hidle] at hawaits
    | steward id =>
        rw [← hsupply]
        refine .of_plain (tame_supplySteward id _) ?_
        intro effect hmem
        cases result with
        | ok connection => exact absurd hmem List.not_mem_nil
        | error causes =>
            rw [List.mem_singleton.mp hmem]
            exact ⟨rfl, rfl⟩

/-- What a quiet session still does leaves it quiet, says nothing of a start or a stop, and asks for
no connection. -/
theorem Evolves.quiet (hevolves : Evolves session outcome) (hquiet : session.Quiet) :
    outcome.1.Quiet ∧
      ∀ effect ∈ outcome.2, effect.isVerdict = false ∧ effect.isConnect = false := by
  have hworks := hevolves.works hquiet.2
  refine ⟨⟨hworks.tame.stewards_eq_nil hquiet.1, hworks.tame.call.trans hquiet.2⟩, ?_⟩
  intro effect hmem
  obtain ⟨hverdict, hconnect⟩ := hworks.effects effect hmem
  refine ⟨hverdict, ?_⟩
  cases hwish : effect.isConnect with
  | false => rfl
  | true => exact absurd hquiet.1 (hconnect hwish)

/-- What the owner's call may come to: the session has still only one steward, and whoever is told
how the call went waits for nothing more. -/
structure Answers (outcome : Session × List Effect) : Prop where
  sole : outcome.1.Sole
  verdict : ∀ effect ∈ outcome.2, effect.isVerdict = true →
    outcome.1.call = .idle ∧ (effect.isEnd = true → outcome.1.stewards = [])

theorem answers_of_quiet (hquiet : outcome.1.Quiet) : Answers outcome :=
  ⟨sole_of_nil hquiet.1, fun _ _ _ => ⟨hquiet.2, fun _ => hquiet.1⟩⟩

theorem answers_of_works (hworks : Works session outcome) (hsole : session.Sole) :
    Answers outcome := by
  refine ⟨hworks.tame.sole hsole, ?_⟩
  intro effect hmem hverdict
  rw [(hworks.effects effect hmem).1] at hverdict
  exact absurd hverdict (by simp)

theorem Sole.concludeStart (hsole : session.Sole) (result : Except ClientError Welcome) :
    Answers (session.concludeStart result) := by
  cases result with
  | error failure => exact answers_of_quiet ⟨hsole.abandonTasks_stewards, rfl⟩
  | ok welcome =>
      refine ⟨⟨hsole.1, by simp [Session.concludeStart]⟩, ?_⟩
      intro effect hmem _
      rw [List.mem_singleton.mp hmem]
      exact ⟨rfl, by simp [Effect.isEnd]⟩

theorem Sole.stepCall (hsole : session.Sole) (hstep : session.stepCall around = some outcome) :
    Answers outcome := by
  cases hcall : session.call with
  | idle => simp [Session.stepCall, hcall] at hstep
  | connecting => simp [Session.stepCall, hcall] at hstep
  | starting id =>
      simp only [Session.stepCall, hcall] at hstep
      split at hstep
      · have hread : Sole { session with ready := session.ready.filter (·.1 ≠ id) } := hsole
        rw [hcall] at hread
        rw [← Option.some.inj hstep]
        exact hread.concludeStart _
      · obtain ⟨-, hstep⟩ := Option.ite_none_right_eq_some.mp hstep
        rw [← Option.some.inj hstep]
        exact hsole.concludeStart _
  | stopping id deadline =>
      simp only [Session.stepCall, hcall, Option.map_eq_some_iff] at hstep
      obtain ⟨answered, hpoll, hstep⟩ := hstep
      rw [← hstep]
      exact answers_of_quiet (((tame_poll hpoll).sole hsole).concludeShutdown answered.2)

theorem Sole.supplyStart (hsole : session.Sole) (hcall : session.call = .connecting)
    (result : Except String ConnectionId) : Answers (session.supplyStart result) := by
  have hnone := hsole.2 hcall
  cases result with
  | error cause => exact answers_of_quiet ⟨hnone, rfl⟩
  | ok connection =>
      refine ⟨⟨?_, by simp [Session.supplyStart]⟩, by simp [Session.supplyStart]⟩
      intro steward hmem
      simp only [Session.supplyStart, hnone, List.nil_append, List.mem_singleton] at hmem
      rw [hmem]
      rfl

/-- Whatever a session does by itself keeps it in the hands of one steward. -/
theorem Evolves.answers (hevolves : Evolves session outcome) (hsole : session.Sole) :
    Answers outcome := by
  rcases hevolves with ⟨around, task, hstep⟩ | ⟨asker, result, hawaits, hsupply⟩
  · cases task with
    | call => exact hsole.stepCall hstep
    | steward id => exact answers_of_works (works_stepSteward hstep).1 hsole
    | reader connection => exact answers_of_works (works_stepReader hstep) hsole
  · cases asker with
    | start =>
        have hstart := hsole.supplyStart (by simpa [awaits] using hawaits)
          (result.mapError (·.headD ""))
        rw [← hsupply]
        refine ⟨hstart.sole, ?_⟩
        intro effect hmem hverdict
        cases List.mem_append.mp hmem with
        | inl hline =>
            cases result with
            | ok connection => exact absurd hline List.not_mem_nil
            | error causes =>
                rw [List.mem_singleton.mp hline] at hverdict
                exact absurd hverdict (by simp [Effect.isVerdict])
        | inr hmem =>
            exact hstart.verdict effect hmem hverdict
    | steward id =>
        rw [← hsupply]
        refine ⟨(tame_supplySteward id _).sole hsole, ?_⟩
        intro effect hmem hverdict
        cases result with
        | ok connection => exact absurd hmem List.not_mem_nil
        | error causes =>
            rw [List.mem_singleton.mp hmem] at hverdict
            exact absurd hverdict (by simp [Effect.isVerdict])

/-- A stop that begins ends the session at once, or waits for the server. -/
theorem Sole.beginStop (hsole : session.Sole) : Answers (session.beginStop around) := by
  have hstopping : Sole { session with stopping := true } := hsole
  simp only [Session.beginStop]
  split
  · have hrequest : Tame { session with stopping := true }
        (Session.request around { session with stopping := true } shutdownMethod .null).1 :=
      tame_request shutdownMethod .null
    split
    · rename_i next failure hnext
      rw [hnext] at hrequest
      exact answers_of_quiet ((hrequest.sole hstopping).concludeStop _)
    · rename_i next id effect hnext
      rw [hnext] at hrequest
      refine ⟨⟨(hrequest.sole hstopping).1, by simp⟩, ?_⟩
      intro sent hmem hverdict
      rw [List.mem_singleton.mp hmem, (request_plain hnext).1] at hverdict
      exact absurd hverdict (by simp)
  · exact answers_of_quiet (hstopping.concludeStop _)

end Calls

end NplLifecycle.Session
