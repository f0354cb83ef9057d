import NplLifecycle.Proofs.Session.Recital

/-!
# What is noted of readers agrees with them

Over all runs of a client, whatever else happens in it: the frames that a reader has handled and
what it has in its buffer are the frames of what it took, however that was cut into chunks, and what
was reported is their recital.  Only a reader's own turns count, and another move does no more to it
than tell it to end.
-/

namespace NplLifecycle.Session

/-- A reader's state and what was noted of it agree with the recital of what it took. -/
inductive Recites (decide : ConnectionEvent → Decision) (arrivals : List Arrival)
    (reports : List Report) (reader : Reader) : Prop where
  /-- It reads, or the error handler ended it. -/
  | underway {frames : List Frame.Outcome}
    (hstreams : Streams (bytesOf arrivals) frames reader.buffer)
    (hending : endingOf? arrivals = none)
    (hrecite : recite decide frames = ⟨reports, reader.faults, reader.exit⟩)
  /-- It was told to end, and did. -/
  | cancelled {frames : List Frame.Outcome}
    (hstreams : Streams (bytesOf arrivals) frames reader.buffer)
    (hending : endingOf? arrivals = none) (hcancelled : reader.isCancelled = true)
    (hexit : reader.exit = some .closed)
    (hrecite : recite decide frames = ⟨reports, reader.faults, none⟩)
  /-- It has seen the end of the stream. -/
  | ended {frames : List Frame.Outcome} {ending : StreamEnd}
    (hstreams : Streams (bytesOf arrivals) frames reader.buffer)
    (hframe : Frame.next? reader.buffer = none)
    (hending : endingOf? arrivals = some ending)
    (hreads : (recite decide frames).exit = none)
    (hrecite : (recite decide frames).conclude decide ending =
      ⟨reports, reader.faults, reader.exit⟩)

section Turns

variable {session : Session} {around : Surroundings} {reader changed old : Reader}
  {reading : Reading} {decide : ConnectionEvent → Decision} {arrivals more : List Arrival}
  {reports : List Report} {outcome : Session × List Effect} {frames : List Frame.Outcome}
  {connection : ConnectionId}

theorem bytesOf_append : bytesOf (arrivals ++ more) = bytesOf arrivals ++ bytesOf more :=
  List.flatMap_append

theorem endingOf?_append (hnone : endingOf? arrivals = none) :
    endingOf? (arrivals ++ more) = endingOf? more := by
  rw [endingOf?, List.findSome?_append]
  rw [endingOf?] at hnone
  rw [hnone]
  rfl

theorem Heeds.left {more : List Report} (hheeds : Heeds decide (reports ++ more)) :
    Heeds decide reports :=
  fun event decision hmem => hheeds event decision (List.mem_append_left _ hmem)

theorem Heeds.right {more : List Report} (hheeds : Heeds decide (reports ++ more)) :
    Heeds decide more :=
  fun event decision hmem => hheeds event decision (List.mem_append_right _ hmem)

theorem Heeds.append {more : List Report} (hheeds : Heeds decide reports)
    (hmore : Heeds decide more) : Heeds decide (reports ++ more) := fun event decision hmem =>
  (List.mem_append.mp hmem).elim (hheeds event decision) (hmore event decision)

theorem arrivalsOn_append (connection : ConnectionId) (early late : List Notice) :
    arrivalsOn connection (early ++ late) =
      arrivalsOn connection early ++ arrivalsOn connection late :=
  List.filterMap_append

theorem reportsOn_append (connection : ConnectionId) (early late : List Notice) :
    reportsOn connection (early ++ late) =
      reportsOn connection early ++ reportsOn connection late :=
  List.filterMap_append

@[simp]
theorem arrivalsOn_taken (arrival : Arrival) (later : List Notice) :
    arrivalsOn connection (.taken connection arrival :: later) =
      arrival :: arrivalsOn connection later := by
  simp [arrivalsOn, Notice.arrivalOn?]

@[simp]
theorem arrivalsOn_reported (other : ConnectionId) (report : Report) (later : List Notice) :
    arrivalsOn connection (.reported other report :: later) = arrivalsOn connection later :=
  rfl

@[simp]
theorem reportsOn_taken (other : ConnectionId) (arrival : Arrival) (later : List Notice) :
    reportsOn connection (.taken other arrival :: later) = reportsOn connection later :=
  rfl

@[simp]
theorem reportsOn_reported (report : Report) (later : List Notice) :
    reportsOn connection (.reported connection report :: later) =
      report :: reportsOn connection later := by
  simp [reportsOn, Notice.reportOn?]

theorem arrivalsOn_taken_of_ne {other : ConnectionId} (hother : other ≠ connection)
    (arrival : Arrival) (later : List Notice) :
    arrivalsOn connection (.taken other arrival :: later) = arrivalsOn connection later := by
  simp [arrivalsOn, Notice.arrivalOn?, hother]

theorem reportsOn_reported_of_ne {other : ConnectionId} (hother : other ≠ connection)
    (report : Report) (later : List Notice) :
    reportsOn connection (.reported other report :: later) = reportsOn connection later := by
  simp [reportsOn, Notice.reportOn?, hother]

@[simp]
theorem on_nil {connection : ConnectionId} :
    arrivalsOn connection [] = [] ∧ reportsOn connection [] = [] :=
  ⟨rfl, rfl⟩

/-- Exactly what a reader takes is noted as taken. -/
theorem arrivalsOn_notices_take (decide : ConnectionEvent → Decision) (reader : Reader)
    (arrival : Arrival) :
    arrivalsOn reader.connection ((Reading.take arrival).notices decide reader) = [arrival] := by
  cases arrival <;> simp [Reading.notices]

theorem isSome_exit_conclude (decide : ConnectionEvent → Decision) (sofar : Recital)
    (ending : StreamEnd) : (sofar.conclude decide ending).exit.isSome := by
  rw [Recital.conclude.eq_def]
  split
  · assumption
  · cases ending <;> rfl

/-- A frame of a reader that reads is the next one of the recital. -/
theorem recite_frame {found : Frame.Outcome} {recital : Recital}
    (hrecite : recite decide frames = recital) (hreads : recital.exit = none) :
    recite decide (frames ++ [found]) =
      match told found (recital.faults + 1) with
      | .error event => recital.fault decide event
      | .ok message => { recital with reports := recital.reports ++ [.dispatched message] } := by
  rw [recite_append, hrecite, List.foldl_cons, List.foldl_nil, Recital.take, hreads]
  rfl

theorem recite_message {found : Frame.Outcome} {message : Message} {faults : Nat}
    (hrecite : recite decide frames = ⟨reports, faults, none⟩)
    (htold : told found (faults + 1) = .ok message) :
    recite decide (frames ++ [found]) = ⟨reports ++ [.dispatched message], faults, none⟩ := by
  rw [recite_frame hrecite rfl, htold]

theorem recite_fault {found : Frame.Outcome} {event : ConnectionEvent} {decision : Decision}
    {faults : Nat} (hrecite : recite decide frames = ⟨reports, faults, none⟩)
    (htold : told found (faults + 1) = .error event) (hdecide : decide event = decision) :
    recite decide (frames ++ [found]) =
      ⟨reports ++ [.faulted event decision], faults + 1, exitAfter decision⟩ := by
  rw [recite_frame hrecite rfl, htold, ← hdecide]
  rfl

/-- A failed read is the last fault of a recital. -/
theorem conclude_failure {cause : String} {event : ConnectionEvent} {decision : Decision}
    {faults : Nat} (hrecite : recite decide frames = ⟨reports, faults, none⟩)
    (hevent : event = faultEvent (.stream cause) none (faults + 1))
    (hdecide : decide event = decision) :
    (recite decide frames).conclude decide (.failure cause) =
      ⟨reports ++ [.faulted event decision], faults + 1,
        some ((exitAfter decision).getD .closed)⟩ := by
  rw [hrecite, ← hdecide, hevent]
  rfl

/-- The end of a stream brings no bytes, and the recital comes to its end too. -/
theorem recites_conclude (ending : StreamEnd) {last : List Report}
    (hstreams : Streams (bytesOf arrivals) frames reader.buffer)
    (hending : endingOf? arrivals = none) (hframe : Frame.next? reader.buffer = none)
    (hreads : (recite decide frames).exit = none) (hbuffer : changed.buffer = reader.buffer)
    (hlast : (recite decide frames).conclude decide ending = ⟨last, changed.faults, changed.exit⟩) :
    Recites decide (arrivals ++ [ending.arrival]) last changed := by
  have hsame : bytesOf (arrivals ++ [ending.arrival]) = bytesOf arrivals := by
    rw [bytesOf_append]
    cases ending <;> exact List.append_nil _
  have hended : endingOf? (arrivals ++ [ending.arrival]) = some ending := by
    rw [endingOf?_append hending]
    cases ending <;> rfl
  rw [← hbuffer] at hstreams hframe
  exact .ended (hsame ▸ hstreams) hframe hended hreads hlast

theorem Recites.stays (hrecites : Recites decide arrivals reports old)
    (hstays : Stays old reader) : Recites decide arrivals reports reader := by
  cases hrecites with
  | underway hstreams hending hrecite =>
      rw [hstays.buffer] at hstreams
      rw [hstays.faults, hstays.exit] at hrecite
      exact .underway hstreams hending hrecite
  | cancelled hstreams hending hcancelled hexit hrecite =>
      rw [hstays.buffer] at hstreams
      rw [hstays.exit] at hexit
      rw [hstays.faults] at hrecite
      exact .cancelled hstreams hending (hstays.cancelled hcancelled) hexit hrecite
  | ended hstreams hframe hending hreads hrecite =>
      rw [hstays.buffer] at hstreams hframe
      rw [hstays.faults, hstays.exit] at hrecite
      exact .ended hstreams hframe hending hreads hrecite

/-- A reader that has not ended is under way. -/
theorem Recites.of_reading (hrecites : Recites decide arrivals reports reader)
    (hexit : reader.exit = none) : ∃ frames,
      Streams (bytesOf arrivals) frames reader.buffer ∧ endingOf? arrivals = none ∧
        recite decide frames = ⟨reports, reader.faults, none⟩ := by
  cases hrecites with
  | underway hstreams hending hrecite => exact ⟨_, hstreams, hending, hexit ▸ hrecite⟩
  | cancelled _ _ _ hclosed => rw [hexit] at hclosed; simp at hclosed
  | @ended frames ending _ _ _ _ hrecite =>
      have hover := isSome_exit_conclude decide (recite decide frames) ending
      rw [hrecite, hexit] at hover
      simp at hover

/-- A turn of a reader takes the recital as far as the reader gets. -/
theorem ReaderTurn.recites (hturn : ReaderTurn around session reader reading changed outcome)
    (hexit : reader.exit = none) (hrecites : Recites decide arrivals reports reader)
    (hheeds : Heeds decide
      (reportsOn reader.connection (reading.notices around.decide reader))) :
    Recites decide
      (arrivals ++ arrivalsOn reader.connection (reading.notices around.decide reader))
      (reports ++ reportsOn reader.connection (reading.notices around.decide reader)) changed := by
  obtain ⟨frames, hstreams, hending, hrecite⟩ := hrecites.of_reading hexit
  have hreads : (recite decide frames).exit = none := by rw [hrecite]
  cases hturn with
  | cancelled hcancelled =>
      simp only [Reading.notices, on_nil, List.append_nil]
      exact .cancelled hstreams hending hcancelled rfl hrecite
  | message _ hframe htold =>
      simp only [notices_of_message htold, arrivalsOn_reported, reportsOn_reported, on_nil,
        List.append_nil]
      exact .underway (hstreams.frame hframe) hending (hexit ▸ recite_message hrecite htold)
  | @fault found rest event _ hframe htold =>
      -- The handler was asked in these surroundings, and the recital has it decide likewise.
      rw [notices_of_fault htold] at hheeds ⊢
      have hdecide := hheeds event (around.decide event) (by simp)
      simp only [arrivalsOn_reported, reportsOn_reported, on_nil, List.append_nil]
      exact .underway (hstreams.frame hframe) hending (recite_fault hrecite htold hdecide)
  | @bytes chunk _ hframe _ =>
      have hmore : Streams (bytesOf (arrivals ++ [.bytes chunk])) frames
          (reader.buffer ++ chunk) := by
        rw [bytesOf_append]
        simpa [bytesOf, Arrival.content] using hstreams.chunk hframe chunk
      simp only [Reading.notices, arrivalsOn_taken, reportsOn_taken, on_nil, List.append_nil]
      exact .underway hmore (endingOf?_append hending) (hexit ▸ hrecite)
  | finish _ hframe _ =>
      have hlast : (recite decide frames).conclude decide .finish =
          ⟨reports, reader.faults, some .closed⟩ := by
        rw [hrecite]
        rfl
      simp only [Reading.notices, arrivalsOn_taken, reportsOn_taken, on_nil, List.append_nil]
      exact recites_conclude .finish hstreams hending hframe hreads rfl hlast
  | @failure cause event _ hframe _ hevent =>
      simp only [Reading.notices, ← hevent] at hheeds ⊢
      have hdecide := hheeds event (around.decide event) (by simp)
      simp only [arrivalsOn_taken, reportsOn_taken, arrivalsOn_reported, reportsOn_reported,
        on_nil]
      exact recites_conclude (.failure cause) hstreams hending hframe hreads rfl
        (conclude_failure hrecite hevent hdecide)

/-- The faults of a reader are numbered from one. -/
def Numbered (reports : List Report) (faults : Nat) : Prop :=
  reports.filterMap Report.count? = List.range' 1 faults

theorem Numbered.fault {chain : List String} {body : Option String} {decision : Decision}
    {faults : Nat} (hnumbered : Numbered reports faults) :
    Numbered (reports ++ [.faulted (.fault chain body (faults + 1)) decision]) (faults + 1) := by
  rw [Numbered, List.filterMap_append, hnumbered, List.range'_1_concat, Nat.add_comm 1]
  rfl

theorem ReaderTurn.numbered (hturn : ReaderTurn around session reader reading changed outcome)
    (hnumbered : Numbered reports reader.faults) :
    Numbered (reports ++ reportsOn reader.connection (reading.notices around.decide reader))
      changed.faults := by
  cases hturn with
  | cancelled hcancelled =>
      rw [Reading.notices, on_nil.2, List.append_nil]
      exact hnumbered
  | @message found rest message hreads hframe htold =>
      rw [notices_of_message htold, reportsOn_reported, Numbered, List.filterMap_append, hnumbered]
      exact List.append_nil _
  | @fault found rest event hreads hframe htold =>
      rw [notices_of_fault htold, reportsOn_reported]
      obtain ⟨chain, body, rfl, -⟩ := told_eq_error htold
      exact hnumbered.fault
  | bytes | finish =>
      simp only [Reading.notices, reportsOn_taken, on_nil.2, List.append_nil]
      exact hnumbered
  | failure =>
      simp only [Reading.notices, reportsOn_taken, reportsOn_reported]
      exact hnumbered.fault

/-- Only what comes of a reader's own connection is noted. -/
theorem notices_of_ne {other : ConnectionId} (hother : other ≠ reader.connection) :
    arrivalsOn other (reading.notices decide reader) = [] ∧
      reportsOn other (reading.notices decide reader) = [] := by
  cases reading with
  | quit => exact ⟨rfl, rfl⟩
  | handle found rest => exact ⟨rfl, reportsOn_reported_of_ne (Ne.symm hother) _ _⟩
  | take arrival =>
      cases arrival with
      | bytes | finish => exact ⟨arrivalsOn_taken_of_ne (Ne.symm hother) _ _, rfl⟩
      | failure cause =>
          refine ⟨arrivalsOn_taken_of_ne (Ne.symm hother) _ _, ?_⟩
          exact reportsOn_reported_of_ne (Ne.symm hother) _ _

end Turns

section Runs

variable {profile : ClientProfile} {session after last : Session} {around : Surroundings}
  {reader : Reader} {connection : ConnectionId} {decide : ConnectionEvent → Decision}
  {moves : List Move} {trace : List Effect} {noted : List Notice} {move : Move}
  {outcome : Session × List Effect}

/-- What was noted of the readers of a session agrees with them. -/
structure Recounted (session : Session) (noted : List Notice) : Prop where
  unread : ∀ connection, session.Unread connection →
    arrivalsOn connection noted = [] ∧ reportsOn connection noted = []
  numbered : ∀ reader ∈ session.readers,
    Numbered (reportsOn reader.connection noted) reader.faults
  recites : ∀ reader ∈ session.readers, ∀ decide,
    Heeds decide (reportsOn reader.connection noted) →
      Recites decide (arrivalsOn reader.connection noted) (reportsOn reader.connection noted)
        reader

theorem recounted_fresh (profile : ClientProfile) : Recounted (fresh profile) [] where
  unread := fun _ _ => ⟨rfl, rfl⟩
  numbered := by simp [fresh]
  recites := by simp [fresh]

/-- A reader that has read nothing has recited nothing. -/
theorem recites_new (connection : ConnectionId) :
    Recites decide [] [] ⟨connection, [], 0, false, none⟩ := by
  have hstreams : Streams (bytesOf []) [] [] := rfl
  exact .underway hstreams rfl rfl

theorem Recounted.retain (hrecounted : session.Recounted noted) (hretains : Retains session after)
    (hlasts : Lasts session after) : after.Recounted noted where
  unread connection hunread :=
    hrecounted.unread connection fun hread => hunread (hlasts.connections _ hread)
  numbered reader hmem := by
    rcases hretains reader hmem with ⟨old, hold, hstays⟩ | ⟨hnew, hunread⟩
    · rw [← hstays.connection, ← hstays.faults]
      exact hrecounted.numbered old hold
    · rw [Numbered, (hrecounted.unread _ hunread).2, congrArg Reader.faults hnew]
      rfl
  recites reader hmem decide hheeds := by
    rcases hretains reader hmem with ⟨old, hold, hstays⟩ | ⟨hnew, hunread⟩
    · rw [← hstays.connection] at hheeds ⊢
      exact (hrecounted.recites old hold decide hheeds).stays hstays
    · rw [(hrecounted.unread _ hunread).1, (hrecounted.unread _ hunread).2, hnew]
      exact recites_new reader.connection

theorem Recounted.read {changed : Reader} {reading : Reading}
    (hrecounted : session.Recounted noted)
    (hreader : session.reader? reader.connection = some reader) (hexit : reader.exit = none)
    (hturn : ReaderTurn around session reader reading changed outcome)
    (hlasts : Lasts session outcome.1) :
    outcome.1.Recounted (noted ++ session.notices around reader.connection) := by
  obtain ⟨pending, settled, hafter, hsame, -⟩ := hturn.frame hexit
  obtain ⟨hmem, -⟩ := reader?_eq_some hreader
  rw [hturn.notices_eq hreader hexit]
  have hothers (other : ConnectionId) (hne : other ≠ reader.connection) :
      arrivalsOn other (reading.notices around.decide reader) = [] ∧
        reportsOn other (reading.notices around.decide reader) = [] := notices_of_ne hne
  -- The reader is changed, and every other one is as it was.
  have hcases : ∀ other ∈ outcome.1.readers, other = changed ∨
      other ∈ session.readers ∧ other.connection ≠ reader.connection := by
    intro other hother
    rw [hafter] at hother
    obtain ⟨old, hold, rfl⟩ := List.mem_map.mp hother
    split
    · exact .inl rfl
    · rename_i hne
      exact .inr ⟨hold, fun hequal => hne (hequal.trans hsame.symm)⟩
  refine ⟨?_, ?_, ?_⟩
  · intro connection hunread
    have hother : connection ≠ reader.connection := by
      rintro rfl
      exact hunread (hlasts.connections _ (List.mem_map_of_mem hmem))
    have hbefore := hrecounted.unread connection fun hread =>
      hunread (hlasts.connections _ hread)
    rw [arrivalsOn_append, reportsOn_append, hbefore.1, hbefore.2]
    exact hothers connection hother
  · intro other hother
    rcases hcases other hother with rfl | ⟨hold, hne⟩
    · rw [hsame, reportsOn_append]
      exact hturn.numbered (hrecounted.numbered reader hmem)
    · rw [reportsOn_append, (hothers _ hne).2, List.append_nil]
      exact hrecounted.numbered other hold
  · intro other hother decide hheeds
    rcases hcases other hother with rfl | ⟨hold, hne⟩
    · rw [hsame, reportsOn_append] at hheeds
      rw [hsame, arrivalsOn_append, reportsOn_append]
      exact hturn.recites hexit (hrecounted.recites reader hmem decide hheeds.left) hheeds.right
    · rw [reportsOn_append, (hothers _ hne).2, List.append_nil] at hheeds
      rw [arrivalsOn_append, reportsOn_append, (hothers _ hne).1, (hothers _ hne).2,
        List.append_nil, List.append_nil]
      exact hrecounted.recites other hold decide hheeds

/-- Only turns of readers are noted. -/
theorem noticed_of_other
    (hother : ∀ around connection, move ≠ .task around (.reader connection)) :
    session.noticed move = [] := by
  cases move with
  | task around task =>
      cases task with
      | reader connection => exact absurd rfl (hother around connection)
      | call | steward => rfl
  | _ => rfl

theorem Recounted.step (hrecounted : session.Recounted noted)
    (hmove : session.next? move = some outcome) (hapart : session.Apart) :
    outcome.1.Recounted (noted ++ session.noticed move) := by
  have hpassage := next?_passage hmove
  by_cases hread : ∃ around connection, move = .task around (.reader connection)
  · obtain ⟨around, connection, rfl⟩ := hread
    have hstep : session.stepReader around connection = some outcome := hmove
    obtain ⟨reader, reading, changed, hreader, hexit, rfl, hturn⟩ := stepReader_turn hstep
    exact hrecounted.read hreader hexit hturn hpassage.lasts
  · have hother : ∀ around connection, move ≠ .task around (.reader connection) :=
      fun around connection heq => hread ⟨around, connection, heq⟩
    rw [noticed_of_other hother, List.append_nil]
    exact hrecounted.retain (hpassage.retains hapart hother) hpassage.lasts

theorem recounted_of_run (hrun : Run.follow next? (fresh profile) moves = some (last, trace)) :
    last.Apart ∧ last.Recounted (Run.notes next? noticed (fresh profile) moves) := by
  refine Run.follow_notes_induction
    (fun session _ noted => session.Apart ∧ session.Recounted noted)
    ⟨apart_fresh profile, recounted_fresh profile⟩ ?_ hrun
  rintro before past noted move after effects - ⟨hapart, hrecounted⟩ hmove
  exact ⟨(next?_passage hmove).apart hapart, hrecounted.step hmove hapart⟩

end Runs

end NplLifecycle.Session
