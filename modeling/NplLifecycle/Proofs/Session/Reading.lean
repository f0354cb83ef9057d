import Mathlib.Data.List.Nodup
import NplLifecycle.Proofs.Session.Move
import NplLifecycle.Proofs.Session.Over

/-!
# Readers over time

A session never forgets a reader, and one that has ended stays as it ended.
-/

namespace NplLifecycle.Session

def exit? (session : Session) (connection : ConnectionId) : Option ReaderExit :=
  (session.reader? connection).bind Reader.exit

/-- Readers stay, and those that have ended stay so. -/
structure Lasts (before after : Session) : Prop where
  connections : ∀ connection ∈ before.readers.map Reader.connection,
    connection ∈ after.readers.map Reader.connection
  exits : ∀ connection exit, before.exit? connection = some exit →
    after.exit? connection = some exit

/-- A session went on without anything but its readers and its requests changing. -/
structure Keeps (before after : Session) : Prop extends Fewer before after where
  alive : after.alive = before.alive
  writer : after.writer = before.writer
  pending : before.pending = [] → after.pending = []
  connections : after.readers.map Reader.connection = before.readers.map Reader.connection
  exits : ∀ connection exit, before.exit? connection = some exit →
    after.exit? connection = some exit

section Reading

variable {session before after : Session} {around : Surroundings} {reader changed : Reader}
  {reading : Reading} {connection : ConnectionId} {outcome : Session × List Effect}

@[simp]
theorem connections_setReader (changed : Reader) :
    (session.setReader changed).readers.map Reader.connection =
      session.readers.map Reader.connection := by
  simp only [setReader, List.map_map]
  refine List.map_congr_left ?_
  intro old _
  simp only [Function.comp_apply]
  split
  · rename_i hsame
    exact hsame.symm
  · rfl

@[simp]
theorem connections_cancelReader (cancelled : ConnectionId) :
    (session.cancelReader cancelled).readers.map Reader.connection =
      session.readers.map Reader.connection := by
  simp only [cancelReader, List.map_map]
  refine List.map_congr_left ?_
  intro old _
  simp only [Function.comp_apply]
  split <;> rfl

@[simp]
theorem connections_abandonTasks :
    session.abandonTasks.readers.map Reader.connection =
      session.readers.map Reader.connection := by
  rw [abandonTasks_readers]
  cases session.reader with
  | none => rfl
  | some connection => exact connections_cancelReader connection

theorem reader?_cancelReader (cancelled : ConnectionId) :
    (session.cancelReader cancelled).reader? connection =
      (session.reader? connection).map fun reader =>
        if reader.connection = cancelled then { reader with isCancelled := true } else reader := by
  simp only [reader?, cancelReader]
  induction session.readers with
  | nil => rfl
  | cons first rest ih =>
      rw [List.map_cons, List.find?_cons, List.find?_cons, ih]
      by_cases hfirst : first.connection = cancelled <;>
        by_cases hsame : first.connection = connection <;> simp [hfirst, hsame]
      all_goals grind

@[simp]
theorem exit?_cancelReader (cancelled : ConnectionId) :
    (session.cancelReader cancelled).exit? connection = session.exit? connection := by
  rw [exit?, exit?, reader?_cancelReader]
  cases session.reader? connection with
  | none => rfl
  | some reader =>
      simp only [Option.map_some, Option.bind_some]
      split <;> rfl

theorem exists_reader? (hmem : connection ∈ session.readers.map Reader.connection) :
    ∃ reader, session.reader? connection = some reader := by
  obtain ⟨reader, hreader, rfl⟩ := List.mem_map.mp hmem
  exact Option.isSome_iff_exists.mp (List.find?_isSome.mpr ⟨reader, hreader, by simp⟩)

/-- Where every connection has one reader, that is the one that is found. -/
theorem reader?_of_mem (hdistinct : (session.readers.map Reader.connection).Nodup)
    (hmem : reader ∈ session.readers) : session.reader? reader.connection = some reader := by
  obtain ⟨found, hfound⟩ := exists_reader? (List.mem_map_of_mem hmem)
  obtain ⟨hfound_mem, hsame⟩ := reader?_eq_some hfound
  rw [hfound, List.inj_on_of_nodup_map hdistinct hfound_mem hmem hsame]

/-- A reader that has ended reads no more. -/
theorem not_isReading_of_exit? {exit : ReaderExit}
    (hdistinct : (session.readers.map Reader.connection).Nodup)
    (hmem : reader ∈ session.readers) (hexit : session.exit? reader.connection = some exit) :
    ¬reader.IsReading := by
  rw [exit?, reader?_of_mem hdistinct hmem, Option.bind_some] at hexit
  intro hreads
  rw [hreads.2] at hexit
  exact absurd hexit (by simp)

theorem mem_of_exit? {exit : ReaderExit} (hexit : session.exit? connection = some exit) :
    connection ∈ session.readers.map Reader.connection := by
  obtain ⟨reader, hreader, -⟩ := Option.bind_eq_some_iff.mp hexit
  obtain ⟨hmem, rfl⟩ := reader?_eq_some hreader
  exact List.mem_map_of_mem hmem

theorem exit?_setReader {changed : Reader} (hchanged : changed.connection = connection)
    (hfound : connection ∈ session.readers.map Reader.connection) :
    (session.setReader changed).exit? connection = changed.exit := by
  obtain ⟨old, hold⟩ := exists_reader? hfound
  rw [exit?, reader?_setReader, if_pos hchanged.symm, hold]
  rfl

theorem exit?_setReader_of_ne {changed : Reader} (hother : changed.connection ≠ connection) :
    (session.setReader changed).exit? connection = session.exit? connection := by
  rw [exit?, reader?_setReader, if_neg (Ne.symm hother)]
  rfl

theorem keeps_of_eq (hreader : after.reader = before.reader)
    (hreaders : after.readers = before.readers)
    (halive : after.alive = before.alive) (hwriter : after.writer = before.writer)
    (hpending : after.pending = before.pending) : Keeps before after where
  toFewer := fewer_of_eq hreader hreaders
  alive := halive
  writer := hwriter
  pending := fun hnone => hpending.trans hnone
  connections := congrArg _ hreaders
  exits connection exit hexit := by
    rw [exit?, reader?, hreaders]
    exact hexit

/-- Another reader may take the place of one that has not ended. -/
theorem keeps_setReader {changed : Reader} (hreader : session.reader? connection = some reader)
    (hexit : reader.exit = none) (hsame : changed.connection = reader.connection)
    (hreads : changed.IsReading → reader.IsReading) :
    Keeps session (session.setReader changed) where
  toFewer := fewer_setReader (reader?_eq_some hreader).1 hsame.symm hreads
  alive := rfl
  writer := rfl
  pending := fun hnone => hnone
  connections := connections_setReader changed
  exits := by
    intro other exit hother
    have hne : changed.connection ≠ other := by
      rintro rfl
      rw [exit?, hsame, (reader?_eq_some hreader).2, hreader, Option.bind_some, hexit] at hother
      exact absurd hother (by simp)
    rw [exit?_setReader_of_ne hne, hother]

/-- A turn of a reader changes the reader and what it settles, and nothing else. -/
theorem ReaderTurn.frame (hturn : ReaderTurn around session reader reading changed outcome)
    (hexit : reader.exit = none) : ∃ pending settled,
      outcome.1 = { session.setReader changed with pending := pending, settled := settled } ∧
      changed.connection = reader.connection ∧ (changed.IsReading → reader.IsReading) ∧
      ∀ id ∈ pending, id ∈ session.pending := by
  cases hturn with
  | cancelled =>
      exact ⟨_, _, rfl, rfl, fun hreads => absurd hreads.2 (by simp), fun _ hmem => hmem⟩
  | fault hreads | bytes hreads | finish hreads | failure hreads =>
      exact ⟨_, _, rfl, rfl, fun _ => ⟨hreads, hexit⟩, fun _ hmem => hmem⟩
  | @message found rest message hreads =>
      cases message with
      | request | notification =>
          exact ⟨_, _, rfl, rfl, fun _ => ⟨hreads, hexit⟩, fun _ hmem => hmem⟩
      | response response =>
          simp only [dispatch, handleResponse]
          split
          · exact ⟨_, _, rfl, trivial, fun _ => ⟨hreads, hexit⟩, fun _ hmem => hmem⟩
          · split
            · exact ⟨_, _, rfl, trivial, fun _ => ⟨hreads, hexit⟩,
                fun id hmem => (List.mem_filter.mp hmem).1⟩
            · exact ⟨_, _, rfl, trivial, fun _ => ⟨hreads, hexit⟩, fun _ hmem => hmem⟩

/-- A reader takes a turn to do what fits to it. -/
theorem exists_turn_of_fits (hreader : session.reader? reader.connection = some reader)
    (hexit : reader.exit = none) (hfits : reading.Fits around reader) :
    ∃ outcome changed,
      session.next? (.task around (.reader reader.connection)) = some outcome ∧
      outcome.1.reader? reader.connection = some changed ∧
      ReaderTurn around session reader reading changed outcome := by
  obtain ⟨changed, hturn⟩ := readerTurn_of_fits session hfits
  have hstep := stepReader_eq_some.mpr ⟨reader, reading, hturn.reading?_eq hreader hexit, rfl⟩
  refine ⟨_, changed, hstep, ?_, hturn⟩
  obtain ⟨pending, settled, hafter, hsame, -⟩ := hturn.frame hexit
  have hchanged := reader?_setReader session changed reader.connection
  rw [if_pos hsame.symm, hreader, Option.map_some] at hchanged
  rw [hafter]
  exact hchanged

theorem ReaderTurn.keeps (hturn : ReaderTurn around session reader reading changed outcome)
    (hreader : session.reader? connection = some reader) (hexit : reader.exit = none) :
    Keeps session outcome.1 := by
  obtain ⟨pending, settled, hafter, hsame, hreads, hpending⟩ := hturn.frame hexit
  rw [hafter]
  obtain ⟨hfewer, halive, hwriter, -, hconnections, hexits⟩ :=
    keeps_setReader hreader hexit hsame hreads
  refine ⟨⟨hfewer.reader, hfewer.readers⟩, halive, hwriter, ?_, hconnections, hexits⟩
  intro hnone
  refine List.eq_nil_iff_forall_not_mem.mpr fun id hmem => ?_
  have hold := hpending id hmem
  rw [hnone] at hold
  exact absurd hold List.not_mem_nil

end Reading

section Lasting

variable {session before after next : Session} {around : Surroundings} {steward : Steward}
  {outcome : Session × List Effect}

theorem Keeps.lasts (hkeeps : Keeps before after) : Lasts before after where
  connections _ hmem := hkeeps.connections ▸ hmem
  exits := hkeeps.exits

theorem Lasts.of_readers (hlasts : Lasts before after) (hreaders : next.readers = after.readers) :
    Lasts before next where
  connections := hreaders ▸ hlasts.connections
  exits connection exit hexit := by
    rw [exit?, reader?, hreaders]
    exact hlasts.exits connection exit hexit

theorem lasts_of_readers (hreaders : after.readers = before.readers) : Lasts before after := by
  have hrefl : Lasts before before := ⟨fun _ hmem => hmem, fun _ _ hexit => hexit⟩
  exact hrefl.of_readers hreaders

theorem Lasts.of_same (hlasts : Lasts after next) (hsame : after.readers = before.readers) :
    Lasts before next where
  connections := hsame ▸ hlasts.connections
  exits connection exit hexit := by
    apply hlasts.exits
    rw [exit?, reader?, hsame]
    exact hexit

theorem lasts_cancelReader (cancelled : ConnectionId) :
    Lasts session (session.cancelReader cancelled) where
  connections _ hmem := by rwa [connections_cancelReader]
  exits _ _ hexit := by rwa [exit?_cancelReader]

theorem lasts_abandonTasks (hreaders : next.readers = session.abandonTasks.readers) :
    Lasts session next := by
  rw [abandonTasks_readers] at hreaders
  cases hreader : session.reader with
  | none => exact lasts_of_readers (by simpa [hreader] using hreaders)
  | some connection =>
      exact (lasts_cancelReader connection).of_readers (by simpa [hreader] using hreaders)

/-- A new reader does not hide one that was there. -/
theorem Lasts.append {reader : Reader} (hlasts : Lasts before after)
    (hreaders : next.readers = after.readers ++ [reader]) : Lasts before next where
  connections connection hmem := by
    rw [hreaders, List.map_append]
    exact List.mem_append_left _ (hlasts.connections connection hmem)
  exits connection exit hexit := by
    have hold := hlasts.exits connection exit hexit
    obtain ⟨found, hfound, hended⟩ := Option.bind_eq_some_iff.mp hold
    have hstill : next.reader? connection = some found := by
      rw [reader?] at hfound
      rw [reader?, hreaders, List.find?_append, hfound]
      rfl
    rw [exit?, hstill]
    exact hended

theorem lasts_failGreeting (connection : ConnectionId) (failure : ClientError) :
    Lasts session (session.failGreeting steward connection failure).1 := by
  apply (lasts_cancelReader connection).of_readers
  rw [failGreeting_eq]
  rfl

theorem lasts_listen (connection : ConnectionId) :
    Lasts session (session.listen steward connection).1 := by
  rw [listen_eq]
  cases session.reader with
  | none =>
      have hsame : Lasts session session := lasts_of_readers rfl
      exact hsame.append rfl
  | some previous => exact (lasts_cancelReader previous).append rfl

theorem StewardTurn.lasts (hturn : StewardTurn around session steward outcome) :
    Lasts session outcome.1 := by
  cases hturn with
  | listen => exact lasts_listen _
  | unfit => exact lasts_failGreeting _ _
  | unsent => exact (lasts_failGreeting _ _).of_same rfl
  | refused hstage hpoll =>
      obtain ⟨pending, settled, rfl, -⟩ := poll_eq hpoll
      exact (lasts_failGreeting _ _).of_same rfl
  | welcomed hstage hpoll =>
      obtain ⟨pending, settled, rfl, -⟩ := poll_eq hpoll
      exact lasts_of_readers rfl
  | _ => exact lasts_of_readers rfl

theorem lasts_concludeStop (result : Except ClientError Unit) :
    Lasts session (session.concludeStop result).1 :=
  lasts_abandonTasks rfl

theorem lasts_failStart (failure : ClientError) :
    Lasts session (session.abandonTasks.failStart failure).1 :=
  lasts_abandonTasks rfl

theorem CallTurn.lasts (hturn : CallTurn around session outcome) : Lasts session outcome.1 := by
  cases hturn with
  | started => exact lasts_of_readers rfl
  | orphaned => exact lasts_failStart _
  | failed => exact (lasts_failStart _).of_same rfl
  | refused hcall hpoll =>
      obtain ⟨pending, settled, rfl, -⟩ := poll_eq hpoll
      exact (lasts_concludeStop _).of_same rfl
  | agreed hcall hpoll =>
      obtain ⟨pending, settled, rfl, -⟩ := poll_eq hpoll
      exact (lasts_concludeStop (.ok ())).of_same rfl

/-- No move makes a session forget a reader, or how one ended. -/
theorem Passage.lasts {move : Move} (hpassage : Passage session move outcome) :
    Lasts session outcome.1 := by
  cases hpassage with
  | stopDead | stopUnsent => exact (lasts_concludeStop _).of_same rfl
  | abandon => exact lasts_abandonTasks rfl
  | steward hsteward hturn => exact hturn.lasts
  | reader hreader hexit hconnection hturn => exact (hturn.keeps hreader hexit).lasts
  | call hturn => exact hturn.lasts
  | _ => exact lasts_of_readers rfl

end Lasting

end NplLifecycle.Session
