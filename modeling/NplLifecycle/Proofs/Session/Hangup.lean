import NplLifecycle.Proofs.Session.Outstanding

/-!
# Requests and the end of their connection

When the reader of a connection ends, a request that waits for a response on it can get none.  The
steward closes the session, and with it the request fails, as soon as it sees that the reader has
ended.  But while it greets the server it does not look: it waits for the welcome, until the time of
the greeting is up.
-/

namespace NplLifecycle.Session

/-- Moves let a request fail because its connection was closed. -/
def Drops (session : Session) (id : RequestId) (moves : List Move) : Prop :=
  ∃ last trace, Run.follow next? session moves = some (last, trace) ∧
    .returned id (.error .connectionClosed) ∈ Run.notes next? entries session moves

/-- A task has a turn before a time. -/
def Move.IsTurnBefore (deadline : Nat) : Move → Prop
  | .task around _ => around.now < deadline
  | _ => False

/-- Whichever turns the tasks have before the deadline of a request: the request fails because its
connection was closed, or some more turns before the deadline let it. -/
def Prompt (session : Session) (id : RequestId) (deadline : Nat) : Prop :=
  ∀ turns middle trace, (∀ move ∈ turns, move.IsTurnBefore deadline) →
    Run.follow next? session turns = some (middle, trace) →
      .returned id (.error .connectionClosed) ∈ Run.notes next? entries session turns ∨
        ∀ around : Surroundings, around.now < deadline →
          ∃ time, around.now ≤ time ∧ time < deadline ∧ ∃ tasks : List Task,
            middle.Drops id (tasks.map (Move.task { around with now := time }))

/-- A steward seeks the server's welcome where none can come, and does not give up before a
deadline. -/
def Stage.IsStranded (session : Session) (deadline : Nat) : Stage → Prop
  | .listening _ => ∃ params, session.profile.handshake = .ok params
  | .greeting _ request limit => request ∈ session.pending ∧ deadline ≤ limit
  | _ => False

/-- The steward is stranded in a greeting. -/
def Stranded (session : Session) (deadline : Nat) : Prop :=
  ∃ steward ∈ session.stewards, steward.stage.IsStranded session deadline

/-- A request waits for a response on a connection whose reader has ended. -/
structure Hung (session : Session) (id : RequestId) (connection : ConnectionId) : Prop where
  pending : id ∈ session.pending
  writer : session.writer = some connection
  ended : (session.exit? connection).isSome

instance (session : Session) (id : RequestId) (connection : ConnectionId) :
    Decidable (session.Hung id connection) :=
  decidable_of_iff (id ∈ session.pending ∧ session.writer = some connection ∧
      (session.exit? connection).isSome)
    ⟨fun hhung => ⟨hhung.1, hhung.2.1, hhung.2.2⟩,
      fun hhung => ⟨hhung.pending, hhung.writer, hhung.ended⟩⟩

/-- The request to shut down waits so, and the steward is not stranded. -/
structure Lapsing (session : Session) (id : RequestId) (deadline : Nat)
    (connection : ConnectionId) : Prop extends Hung session id connection where
  call : session.call = .stopping id deadline
  unstranded : ¬session.Stranded deadline

/-- The request to shut down was dropped, and the owner's call has not seen it yet. -/
structure Lapsed (session : Session) (id : RequestId) (deadline : Nat) : Prop where
  call : session.call = .stopping id deadline
  dropped : session.settled.lookup id = some none

section Endings

variable {session middle after : Session} {around : Surroundings} {steward : Steward}
  {connection : ConnectionId} {id : RequestId} {deadline : Nat} {task : Task}
  {move : Move} {moves : List Move} {trace effects : List Effect} {journal : List Entry}
  {outcome : Session × List Effect}

theorem Drops.cons (hmove : session.next? move = some (middle, effects))
    (hdrops : middle.Drops id moves) : session.Drops id (move :: moves) := by
  obtain ⟨last, trace, hrest, hmem⟩ := hdrops
  refine ⟨last, effects ++ trace, Run.follow_cons_eq_some.mpr
    ⟨middle, effects, trace, hmove, hrest, rfl⟩, ?_⟩
  rw [Run.notes_cons hmove]
  exact List.mem_append_right _ hmem

/-- Where the reader of the connection has ended that a session sends on, the steward is at that
connection. -/
theorem Hung.stage (hhung : session.Hung id connection) (hcourse : session.Course) :
    ∃ steward, session.stewards = [steward] ∧ session.Online connection ∧
      (steward.stage = .listening connection ∨
        (∃ request limit, steward.stage = .greeting connection request limit) ∨
        steward.stage = .serving connection) := by
  have hsome : session.pending ≠ [] := List.ne_nil_of_mem hhung.pending
  obtain ⟨exit, hexit⟩ := Option.isSome_iff_exists.mp hhung.ended
  have hsame {other : ConnectionId} (honline : session.Online other) : other = connection :=
    Option.some.inj (honline.writer.symm.trans hhung.writer)
  obtain ⟨steward, hsingle⟩ := hcourse.guided.none_or_single.resolve_left fun hnone =>
    hsome (hcourse.offline_of_none hnone).pending
  refine ⟨steward, hsingle, ?_⟩
  have hupkeep := hcourse.guided.upkeep_of_single hsingle
  cases hstage : steward.stage with
  | connected other | bereft exit =>
      rw [hstage] at hupkeep
      exact absurd hupkeep.1.pending hsome
  | reconnecting =>
      rw [hstage] at hupkeep
      exact absurd hupkeep.pending hsome
  | attached other =>
      rw [hstage] at hupkeep
      obtain rfl := hsame hupkeep.1
      exact absurd (mem_of_exit? hexit) hupkeep.2
  | listening other =>
      rw [hstage] at hupkeep
      obtain rfl := hsame hupkeep.1
      exact ⟨hupkeep.1, .inl rfl⟩
  | greeting other request limit =>
      rw [hstage] at hupkeep
      obtain rfl := hsame hupkeep.1
      exact ⟨hupkeep.1, .inr (.inl ⟨request, limit, rfl⟩)⟩
  | serving other =>
      rw [hstage] at hupkeep
      obtain rfl := hsame hupkeep.1
      exact ⟨hupkeep.1, .inr (.inr rfl)⟩

/-- After the end of its reader nobody reads; the readers that were told to end do so, and nothing
else changes. -/
theorem Hung.reader_turn {place : ConnectionId} (hhung : session.Hung id connection)
    (hcourse : session.Course)
    (hmove : session.next? (.task around (.reader place)) = some (after, effects)) :
    ∃ reader : Reader, after = session.setReader { reader with exit := some .closed } ∧
      after.Hung id connection := by
  obtain ⟨reader, reading, changed, hreader, hexit, -, hturn⟩ := stepReader_turn hmove
  have hmem := (reader?_eq_some hreader).1
  obtain ⟨steward, -, honline, -⟩ := hhung.stage hcourse
  have hother : reader.connection ≠ connection := by
    intro hsame
    have hended := hhung.ended
    rw [exit?, ← hsame, reader?_of_mem hcourse.distinct hmem, Option.bind_some, hexit] at hended
    exact absurd hended (by simp)
  have hnot (hreads : reader.isCancelled = false) : False :=
    hother (honline.readers reader hmem ⟨hreads, hexit⟩)
  generalize houtcome : (after, effects) = outcome at hturn
  cases hturn with
  | cancelled =>
      obtain ⟨rfl, -⟩ := Prod.mk.inj houtcome
      have hsame : (session.setReader { reader with exit := some .closed }).exit? connection =
          session.exit? connection := exit?_setReader_of_ne hother
      exact ⟨reader, rfl, hhung.pending, hhung.writer, hsame ▸ hhung.ended⟩
  | fault hreads | message hreads | bytes hreads | finish hreads | failure hreads =>
      exact (hnot hreads).elim

theorem poll_none {method : String} {timeout : Nat} (hunsettled : session.settled.lookup id = none)
    (hnow : around.now < deadline) : session.poll around method id deadline timeout = none := by
  simp only [poll, hunsettled]
  exact if_neg (Nat.not_le.mpr hnow)

theorem next?_call_of_unsettled (hcall : session.call = .stopping id deadline)
    (hunsettled : session.settled.lookup id = none) (hnow : around.now < deadline) :
    session.next? (.task around .call) = none := by
  show session.stepCall around = none
  simp only [stepCall, hcall, poll_none hunsettled hnow]
  rfl

/-- To ask after one request changes nothing for another that waits. -/
theorem poll_other {next : Session} {method : String} {request : RequestId} {limit timeout : Nat}
    {answer : Except ClientError Response}
    (hpoll : session.poll around method request limit timeout = some (next, answer))
    (hother : id ≠ request) (hpending : id ∈ session.pending)
    (hunsettled : session.settled.lookup id = none) :
    id ∈ next.pending ∧ next.settled.lookup id = none := by
  rcases poll_cases hpoll with ⟨settled, -, -, rfl⟩ | ⟨-, -, -, rfl⟩
  · exact ⟨hpending, List.lookup_eq_none_iff.mpr fun entry hmem =>
      List.lookup_eq_none_iff.mp hunsettled entry (List.mem_filter.mp hmem).1⟩
  · exact ⟨List.mem_filter.mpr ⟨hpending, by simpa using hother⟩, hunsettled⟩

/-- Two tasks never wait for the same request. -/
theorem Tracked.ne {other : Task} {request : RequestId} (htracked : Tracked session trace journal)
    (htask : session.requestOf task = some id) (hother : session.requestOf other = some request)
    (hne : task ≠ other) : id ≠ request := by
  rintro rfl
  exact hne (htracked.accounted.waiting.distinct task other id htask hother)

theorem requestOf_steward {request : RequestId} {limit : Nat}
    (hsingle : session.stewards = [steward])
    (hstage : steward.stage = .greeting connection request limit) :
    session.requestOf (.steward steward.id) = some request := by
  simp [requestOf, steward?, hsingle, Steward.request?, hstage]

theorem lapsed_failGreeting (hcall : session.call = .stopping id deadline)
    (hpending : id ∈ session.pending) (hunsettled : session.settled.lookup id = none)
    (failure : ClientError) :
    (session.failGreeting steward connection failure).1.Lapsed id deadline := by
  rw [failGreeting_eq]
  exact ⟨hcall, @Ledger.lookup_close session.ledger id hpending hunsettled⟩

theorem next?_of_listening (hsteward : session.steward? 0 = some steward)
    (hstage : steward.stage = .listening connection) (around : Surroundings) :
    session.next? (.task around (.steward 0)) = some (session.greet around steward connection) := by
  show (session.steward? 0).bind _ = _
  rw [hsteward, Option.bind_some, hstage]

theorem next?_of_greeting {request : RequestId} {limit : Nat} {next : Session}
    {answer : Except ClientError Response} (hsteward : session.steward? 0 = some steward)
    (hstage : steward.stage = .greeting connection request limit)
    (hpoll : session.poll around greetingMethod request limit greetingTimeout =
      some (next, answer)) :
    session.next? (.task around (.steward 0)) =
      some (next.concludeGreeting around steward connection answer) := by
  show (session.steward? 0).bind _ = _
  rw [hsteward, Option.bind_some, hstage]
  exact congrArg (Option.map _) hpoll

/-- Who asks after a request that is settled, or whose time is up, learns how it went. -/
theorem exists_poll {method : String} {limit timeout : Nat}
    (hdue : session.settled.lookup id ≠ none ∨ limit ≤ around.now) :
    ∃ next answer, session.poll around method id limit timeout = some (next, answer) := by
  cases hlookup : session.settled.lookup id with
  | some settled =>
      cases settled <;> exact ⟨_, _, by simp only [poll, hlookup]; rfl⟩
  | none =>
      have hlate := hdue.resolve_left (by simp [hlookup])
      exact ⟨_, _, by simp only [poll, hlookup, if_pos hlate]; rfl⟩

theorem Lapsing.not_stranded (hlapsing : session.Lapsing id deadline connection)
    (hsingle : session.stewards = [steward]) : ¬steward.stage.IsStranded session deadline :=
  fun hstranded =>
    hlapsing.unstranded ⟨steward, hsingle ▸ List.mem_singleton_self steward, hstranded⟩

/-- A steward that is not stranded closes the session, or goes on to serve. -/
theorem Lapsing.steward_turn {number : StewardId}
    (hlapsing : session.Lapsing id deadline connection) (htracked : Tracked session trace journal)
    (hmove : session.next? (.task around (.steward number)) = some outcome) :
    outcome.1.Lapsed id deadline ∨ (outcome.1.Lapsing id deadline connection ∧
      session.stage? ≠ some (.serving connection) ∧
      outcome.1.stage? = some (.serving connection)) := by
  obtain ⟨steward, hsingle, -, hat⟩ := hlapsing.toHung.stage htracked.course
  have hfound : session.stage? = some steward.stage := stage?_of_single hsingle
  have hstranded := hlapsing.not_stranded hsingle
  have hunsettled := htracked.accounted.unsettled hlapsing.pending
  have hrequest : session.requestOf .call = some id := (attends_call hlapsing.call).request
  obtain ⟨leader, hsteward, hturn⟩ := stepSteward_turn hmove
  obtain rfl : leader = steward :=
    List.singleton_inj.mp ((htracked.course.guided.stewards_eq hsteward).symm.trans hsingle)
  cases hturn with
  | attach hstage | listen hstage | retire hstage | resign hstage | exhaust hstage
  | reconnect hstage => simp [hstage] at hat
  | unfit => exact .inl (lapsed_failGreeting hlapsing.call hlapsing.pending hunsettled _)
  | unsent hstage hprofile | greet hstage hprofile =>
      rw [hstage] at hstranded
      exact absurd ⟨_, hprofile⟩ hstranded
  | refused hstage hpoll =>
      have hother := htracked.ne hrequest (requestOf_steward hsingle hstage) (by simp)
      obtain ⟨hpending, hunsettled⟩ := poll_other hpoll hother hlapsing.pending hunsettled
      obtain ⟨pending, settled, rfl, -⟩ := poll_eq hpoll
      have hcall : Session.call { session with pending := pending, settled := settled } =
          .stopping id deadline := hlapsing.call
      exact .inl (lapsed_failGreeting hcall hpending hunsettled _)
  | @welcomed place request limit next answer welcome effect lines hstage hpoll =>
      have hother := htracked.ne hrequest (requestOf_steward hsingle hstage) (by simp)
      obtain ⟨hpending, -⟩ := poll_other hpoll hother hlapsing.pending hunsettled
      have hstewards := stewards_welcome hsingle hpoll place
      obtain ⟨pending, settled, rfl, -⟩ := poll_eq hpoll
      have hplace : place = connection := by simpa [hstage] using hat
      refine .inr ⟨⟨⟨hpending, hlapsing.writer, hlapsing.ended⟩, hlapsing.call, ?_⟩,
        by simp [hfound, hstage], ?_⟩
      · rintro ⟨other, hother, hstranded⟩
        have hlast : other = { leader with stage := .serving place, announced := true } :=
          List.mem_singleton.mp (hstewards ▸ hother)
        rw [hlast] at hstranded
        exact hstranded
      · rw [← hplace]
        exact stage?_of_single hstewards
  | lose =>
      exact .inl ⟨hlapsing.call,
        @Ledger.lookup_close session.ledger id hlapsing.pending hunsettled⟩

/-- A turn before the deadline leaves the request as near to its end as it was. -/
theorem Lapsing.turn (hlapsing : session.Lapsing id deadline connection)
    (htracked : Tracked session trace journal) (hnow : around.now < deadline)
    (hmove : session.next? (.task around task) = some (after, effects)) :
    after.Lapsing id deadline connection ∨ after.Lapsed id deadline := by
  cases task with
  | call =>
      have hunsettled := htracked.accounted.unsettled hlapsing.pending
      rw [next?_call_of_unsettled hlapsing.call hunsettled hnow] at hmove
      exact absurd hmove (by simp)
  | steward number =>
      exact (hlapsing.steward_turn htracked hmove).symm.imp_left And.left
  | reader place =>
      obtain ⟨reader, rfl, hhung⟩ := hlapsing.toHung.reader_turn htracked.course hmove
      exact .inl ⟨hhung, hlapsing.call, hlapsing.unstranded⟩

/-- Before the deadline there comes a time at which the steward has a turn. -/
theorem Lapsing.exists_turn (hlapsing : session.Lapsing id deadline connection)
    (htracked : Tracked session trace journal) (hnow : around.now < deadline) :
    ∃ time, around.now ≤ time ∧ time < deadline ∧ ∃ after effects,
      session.next? (.task { around with now := time } (.steward 0)) = some (after, effects) := by
  obtain ⟨steward, hsingle, -, hat⟩ := hlapsing.toHung.stage htracked.course
  have hsteward := htracked.course.steward?_zero hsingle
  have hstranded := hlapsing.not_stranded hsingle
  rcases hat with hstage | ⟨request, limit, hstage⟩ | hstage
  · exact ⟨around.now, Nat.le_refl _, hnow, _, _, next?_of_listening hsteward hstage around⟩
  · have hmoves (time : Nat) (hdue : session.settled.lookup request ≠ none ∨ limit ≤ time) :
        ∃ after effects, session.next? (.task { around with now := time } (.steward 0)) =
          some (after, effects) := by
      obtain ⟨next, answer, hpoll⟩ := @exists_poll session { around with now := time } request
        greetingMethod limit greetingTimeout hdue
      exact ⟨_, _, next?_of_greeting hsteward hstage hpoll⟩
    by_cases hwaits : request ∈ session.pending
    · -- The welcome cannot come, and the steward gives up when the time of the greeting is up.
      have hearly : limit < deadline := by
        rw [hstage] at hstranded
        exact Nat.lt_of_not_le fun hlate => hstranded ⟨hwaits, hlate⟩
      exact ⟨max around.now limit, Nat.le_max_left _ _, Nat.max_lt.mpr ⟨hnow, hearly⟩,
        hmoves _ (.inr (Nat.le_max_right _ _))⟩
    · -- The server's answer is there already.
      have hknown : session.ledger.Knows request :=
        htracked.accounted.waiting.known _ _ (requestOf_steward hsingle hstage)
      have hsettled : session.settled.lookup request ≠ none := by
        obtain ⟨entry, hmem, rfl⟩ := List.mem_map.mp (hknown.resolve_left hwaits)
        intro hnone
        exact absurd (List.lookup_eq_none_iff.mp hnone entry hmem) (by simp)
      exact ⟨around.now, Nat.le_refl _, hnow, hmoves _ (.inl hsettled)⟩
  · obtain ⟨exit, hexit⟩ := Option.isSome_iff_exists.mp hlapsing.ended
    exact ⟨around.now, Nat.le_refl _, hnow, _, _, next?_of_serving hsteward hstage hexit around⟩

/-- The owner's call learns at its next turn that its request was dropped. -/
theorem Lapsed.entries_call (hlapsed : session.Lapsed id deadline) (around : Surroundings) :
    session.entries (.task around .call) = [.returned id (.error .connectionClosed), .closed] := by
  simp only [entries, callEntries, hlapsed.call, poll, hlapsed.dropped]

theorem Lapsed.drops (hlapsed : session.Lapsed id deadline) (around : Surroundings) :
    session.Drops id [.task around .call] := by
  have hmove : ∃ outcome, session.next? (.task around .call) = some outcome := by
    show ∃ outcome, session.stepCall around = some outcome
    simp only [stepCall, hlapsed.call, poll, hlapsed.dropped]
    exact ⟨_, rfl⟩
  obtain ⟨⟨last, effects⟩, hmove⟩ := hmove
  refine ⟨last, effects, Run.follow_singleton hmove, ?_⟩
  rw [Run.notes_cons hmove, hlapsed.entries_call]
  exact List.mem_append_left _ List.mem_cons_self

theorem Lapsed.turn (hlapsed : session.Lapsed id deadline)
    (htracked : Tracked session trace journal)
    (hmove : session.next? (.task around task) = some (after, effects)) :
    after.Lapsed id deadline ∨
      .returned id (.error .connectionClosed) ∈ session.entries (.task around task) := by
  have hpassage := next?_passage hmove
  obtain ⟨hsteps, -⟩ := hpassage.books htracked.accounted.waiting htracked.accounted.sound
  rcases hsteps.dropped_or_returned hlapsed.dropped with hdropped | hreturned
  · cases hpassage with
    | steward hsteward hturn => exact .inl ⟨hturn.frame.1.trans hlapsed.call, hdropped⟩
    | reader hreader hexit hconnection hturn =>
        obtain ⟨pending, settled, hafter, -⟩ := hturn.frame hexit
        exact .inl ⟨(congrArg Session.call hafter).trans hlapsed.call, hdropped⟩
    | call hturn =>
        rw [hlapsed.entries_call]
        exact .inr List.mem_cons_self
  · exact .inr hreturned

/-- Two turns of the steward and one of the owner's call are enough. -/
theorem Lapsing.drops (hlapsing : session.Lapsing id deadline connection)
    (htracked : Tracked session trace journal) (hnow : around.now < deadline) :
    ∃ time, around.now ≤ time ∧ time < deadline ∧ ∃ tasks : List Task,
      session.Drops id (tasks.map (Move.task { around with now := time })) := by
  obtain ⟨time, hlater, hearly, middle, first, hmove⟩ := hlapsing.exists_turn htracked hnow
  refine ⟨time, hlater, hearly, ?_⟩
  rcases hlapsing.steward_turn htracked hmove with hlapsed | ⟨hserving, -, hstage⟩
  · exact ⟨[.steward 0, .call], Drops.cons hmove (hlapsed.drops _)⟩
  · have hnext := htracked.step (by simp) hmove
    obtain ⟨steward, hsingle, -, -⟩ := hserving.toHung.stage hnext.course
    have hserves : steward.stage = .serving connection :=
      Option.some.inj ((stage?_of_single hsingle).symm.trans hstage)
    obtain ⟨exit, hexit⟩ := Option.isSome_iff_exists.mp hserving.ended
    have hlast := next?_of_serving (hnext.course.steward?_zero hsingle) hserves hexit
      { around with now := time }
    rcases hserving.steward_turn hnext hlast with hlapsed | ⟨-, hother, -⟩
    · exact ⟨[.steward 0, .steward 0, .call],
        Drops.cons hmove (Drops.cons hlast (hlapsed.drops _))⟩
    · exact absurd hstage hother

/-- Where the steward is not stranded, the request to shut down does not outlive its connection. -/
theorem Lapsing.prompt (hlapsing : session.Lapsing id deadline connection)
    (htracked : Tracked session trace journal) : session.Prompt id deadline := by
  intro turns middle effects hearly hrun
  have hall : Entry.returned id (.error .connectionClosed) ∈ Run.notes next? entries session turns ∨
      ∃ trace journal, Tracked middle trace journal ∧
        (middle.Lapsing id deadline connection ∨ middle.Lapsed id deadline) := by
    refine Run.follow_notes_induction (fun session _ noted =>
      Entry.returned id (.error .connectionClosed) ∈ noted ∨ ∃ trace journal,
        Tracked session trace journal ∧
          (session.Lapsing id deadline connection ∨ session.Lapsed id deadline)) ?_ ?_ hrun
    · exact .inr ⟨trace, journal, htracked, .inl hlapsing⟩
    · rintro before past noted move after effects hmem hbefore hmove
      cases move with
      | task around task =>
          rcases hbefore with hreturned | ⟨trace, journal, htracked, hlapses⟩
          · exact .inl (List.mem_append_left _ hreturned)
          · have hnext := htracked.step (by simp) hmove
            rcases hlapses with hlapsing | hlapsed
            · exact .inr ⟨_, _, hnext, hlapsing.turn htracked (hearly _ hmem) hmove⟩
            · rcases hlapsed.turn htracked hmove with hlapsed | hreturned
              · exact .inr ⟨_, _, hnext, .inr hlapsed⟩
              · exact .inl (List.mem_append_right _ hreturned)
      | _ => exact (hearly _ hmem).elim
  refine hall.imp_right ?_
  rintro ⟨trace, journal, htracked, hlapsing | hlapsed⟩ around hnow
  · exact hlapsing.drops htracked hnow
  · exact ⟨around.now, Nat.le_refl _, hnow, [.call], hlapsed.drops around⟩

end Endings

end NplLifecycle.Session
