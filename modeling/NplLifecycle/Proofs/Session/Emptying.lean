import NplLifecycle.Proofs.Frame.Positions
import NplLifecycle.Proofs.Session.Correlation
import NplLifecycle.Proofs.Session.Recounting

/-!
# Readers come to the end of their buffer

Between two reads a reader handles the frames of its buffer one by one.  Each of them takes its
terminator off the buffer at least, also where it is reported as a fault and the error handler goes
on, and only a read puts bytes back.  So however the turns fall, whatever the bytes are and whatever
the error handler decides, a reader comes to at most a quarter as many frames as it has bytes before
it reads again or ends.
-/

namespace NplLifecycle.Session

def backlog (session : Session) (connection : ConnectionId) : List UInt8 :=
  ((session.reader? connection).map Reader.buffer).getD []

/-- One if the reader of a connection has not ended, so that it can have another turn. -/
def ongoing (session : Session) (connection : ConnectionId) : Nat :=
  if (session.exit? connection).isSome then 0 else 1

def Move.isTurnOf (connection : ConnectionId) : Move → Bool
  | .task _ (.reader other) => other == connection
  | _ => false

/-- So many turns and reports of a reader lie between two sessions, and no read. -/
structure Spends (connection : ConnectionId) (before after : Session) (turns reports : Nat) :
    Prop where
  bytes : 4 * reports + (after.backlog connection).length ≤ (before.backlog connection).length
  /-- Every turn makes a report or is the last one. -/
  turns : turns + after.ongoing connection ≤ reports + before.ongoing connection

section Turns

variable {session middle after : Session} {around : Surroundings} {reader changed : Reader}
  {reading : Reading} {connection : ConnectionId} {outcome : Session × List Effect}
  {move : Move} {turns reports more later : Nat}

theorem spends_refl (connection : ConnectionId) (session : Session) :
    Spends connection session session 0 0 where
  bytes := Nat.le_of_eq (Nat.zero_add _)
  turns := Nat.le_refl _

theorem Spends.trans (hfirst : Spends connection session middle turns reports)
    (hsecond : Spends connection middle after more later) :
    Spends connection session after (turns + more) (reports + later) where
  bytes := by
    have hbytes := hfirst.bytes
    have hmore := hsecond.bytes
    omega
  turns := by
    have hturns := hfirst.turns
    have hmore := hsecond.turns
    omega

theorem backlog_of_reader (hreader : session.reader? connection = some reader) :
    session.backlog connection = reader.buffer := by
  rw [backlog, hreader]
  rfl

theorem ongoing_of_reader (hreader : session.reader? connection = some reader) :
    session.ongoing connection = if reader.exit.isSome then 0 else 1 := by
  rw [ongoing, exit?, hreader]
  rfl

theorem ongoing_le (session : Session) (connection : ConnectionId) :
    session.ongoing connection ≤ 1 := by
  rw [ongoing]
  split
  · exact Nat.zero_le 1
  · exact Nat.le_refl 1

/-- A reader that ends stays so. -/
theorem Lasts.ongoing_le (hlasts : Lasts session after) (connection : ConnectionId) :
    after.ongoing connection ≤ session.ongoing connection := by
  cases hexit : session.exit? connection with
  | none => simpa [ongoing, hexit] using after.ongoing_le connection
  | some exit => simp [ongoing, hexit, hlasts.exits connection exit hexit]

/-- A turn takes four bytes or more for its report, or it is the last one. -/
theorem ReaderTurn.spends (hturn : ReaderTurn around session reader reading changed outcome)
    (hnone : arrivalsOn reader.connection (reading.notices around.decide reader) = []) :
    4 * (reportsOn reader.connection (reading.notices around.decide reader)).length +
          changed.buffer.length ≤ reader.buffer.length ∧
      ((reportsOn reader.connection (reading.notices around.decide reader)).length = 1 ∨
        changed.exit.isSome) := by
  cases hturn with
  | cancelled hcancelled =>
      rw [Reading.notices, on_nil.2]
      exact ⟨Nat.le_of_eq (Nat.zero_add _), Or.inr rfl⟩
  | message _ hframe | fault _ hframe =>
      rw [Reading.notices, reportsOn_reported, on_nil.2, List.length_singleton]
      have hshorter := Frame.next?_length hframe
      rw [Nat.add_comm] at hshorter
      exact ⟨hshorter, Or.inl rfl⟩
  | bytes | finish | failure =>
      simp only [Reading.notices, arrivalsOn_taken] at hnone
      exact absurd hnone (List.cons_ne_nil _ _)

/-- The same for the session, and for a turn of any reader: the other ones are left alone. -/
theorem ReaderTurn.spends_session
    (hturn : ReaderTurn around session reader reading changed outcome)
    (hreader : session.reader? reader.connection = some reader) (hexit : reader.exit = none)
    (hnone : arrivalsOn connection (reading.notices around.decide reader) = []) :
    Spends connection session outcome.1 (if reader.connection = connection then 1 else 0)
      (reportsOn connection (reading.notices around.decide reader)).length := by
  obtain ⟨pending, settled, hchanged, hsame, -⟩ := hturn.frame hexit
  have hafter : outcome.1.reader? connection =
      (session.setReader changed).reader? connection := by
    rw [hchanged]
    rfl
  rw [reader?_setReader, hsame] at hafter
  by_cases hown : connection = reader.connection
  · subst hown
    rw [if_pos rfl, hreader] at hafter
    obtain ⟨hbytes, hlast⟩ := hturn.spends hnone
    rw [if_pos rfl]
    constructor
    · rwa [backlog_of_reader hreader, backlog_of_reader hafter]
    · have hongoing := outcome.1.ongoing_le reader.connection
      have hbefore : session.ongoing reader.connection = 1 := by
        rw [ongoing_of_reader hreader, hexit]
        rfl
      cases hlast with
      | inl hreport => omega
      | inr hended =>
          have hover : outcome.1.ongoing reader.connection = 0 := by
            rw [ongoing_of_reader hafter, if_pos hended]
          omega
  · rw [if_neg hown] at hafter
    rw [if_neg (Ne.symm hown), (notices_of_ne hown).2]
    constructor
    · rw [backlog, backlog, hafter]
      exact Nat.le_of_eq (Nat.zero_add _)
    · rw [ongoing, ongoing, exit?, exit?, hafter]
      exact Nat.le_refl _

/-- Where nobody has a turn no buffer grows, and what has ended stays so. -/
theorem Retains.spends (hretains : Retains session after) (hlasts : Lasts session after)
    (hapart : session.Apart) (connection : ConnectionId) :
    Spends connection session after 0 0 := by
  constructor
  · rw [Nat.mul_zero, Nat.zero_add]
    cases hreader : after.reader? connection with
    | none =>
        rw [backlog, hreader]
        exact Nat.zero_le _
    | some reader =>
        obtain ⟨hmem, rfl⟩ := reader?_eq_some hreader
        rw [backlog_of_reader hreader]
        rcases hretains reader hmem with ⟨old, hold, hstays⟩ | ⟨hnew, -⟩
        · have hbefore := reader?_of_mem hapart.distinct hold
          rw [hstays.connection] at hbefore
          have hsame : reader.buffer = backlog session reader.connection := by
            rw [backlog_of_reader hbefore, hstays.buffer]
          exact Nat.le_of_eq (congrArg List.length hsame)
        · rw [congrArg Reader.buffer hnew]
          exact Nat.zero_le _
  · rw [Nat.zero_add, Nat.zero_add]
    exact hlasts.ongoing_le connection

theorem spends_of_next? (hmove : session.next? move = some outcome) (hapart : session.Apart)
    (hnone : arrivalsOn connection (session.noticed move) = []) :
    Spends connection session outcome.1 (if move.isTurnOf connection then 1 else 0)
      (reportsOn connection (session.noticed move)).length := by
  have hpassage := next?_passage hmove
  by_cases hread : ∃ around other, move = .task around (.reader other)
  · obtain ⟨around, other, rfl⟩ := hread
    have hstep : session.stepReader around other = some outcome := hmove
    obtain ⟨reader, reading, changed, hreader, hexit, rfl, hturn⟩ := stepReader_turn hstep
    simp only [noticed, hturn.notices_eq hreader hexit] at hnone ⊢
    simp only [Move.isTurnOf, beq_iff_eq]
    exact hturn.spends_session hreader hexit hnone
  · have hother : ∀ around other, move ≠ .task around (.reader other) :=
      fun around other heq => hread ⟨around, other, heq⟩
    have hnoTurn : move.isTurnOf connection = false := by
      cases move with
      | task around task =>
          cases task with
          | reader other => exact absurd rfl (hother around other)
          | call | steward => rfl
      | _ => rfl
    rw [noticed_of_other hother, on_nil.2, hnoTurn]
    exact (hpassage.retains hapart hother).spends hpassage.lasts hapart connection

end Turns

section Runs

variable {middle last : Session} {moves : List Move} {trace : List Effect}
  {connection : ConnectionId}

theorem spends_of_run (hapart : middle.Apart)
    (hrun : Run.follow next? middle moves = some (last, trace))
    (hnone : arrivalsOn connection (Run.notes next? noticed middle moves) = []) :
    Spends connection middle last (moves.countP (Move.isTurnOf connection))
      (reportsOn connection (Run.notes next? noticed middle moves)).length := by
  induction moves generalizing middle trace with
  | nil =>
      obtain ⟨rfl, -⟩ := Prod.mk.inj (Option.some.inj hrun)
      exact spends_refl connection middle
  | cons move moves ih =>
      obtain ⟨next, effects, more, hmove, hrest, rfl⟩ := Run.follow_cons_eq_some.mp hrun
      rw [Run.notes_cons hmove, arrivalsOn_append, List.append_eq_nil_iff] at hnone
      have hfirst := spends_of_next? hmove hapart hnone.1
      have hlater := ih ((next?_passage hmove).apart hapart) hrest hnone.2
      rw [Run.notes_cons hmove, reportsOn_append, List.length_append, List.countP_cons,
        Nat.add_comm (List.countP _ _)]
      exact hfirst.trans hlater

/-- Taking a frame off a buffer never goes out of its bounds or beyond a machine word, whatever
length a header gives: either there is no whole frame and the buffer stays as it is, or a front of
it is taken off that holds a terminator, and nothing else.  So a buffer holds at most a quarter as
many frames as bytes.  In every run of a client, and whatever the error handler decides, while the
reader of a connection reads nothing new it makes no more reports than that, and every turn but the
last makes one. -/
theorem reading_ends :
    (∀ greatest buffer, buffer.length ≤ greatest →
      ∃ found left, Frame.takeFrame greatest buffer = .ok (found, left) ∧
        Frame.next? buffer = found.map (fun outcome => (outcome, left)) ∧
        (found = none → left = buffer) ∧
        (found ≠ none → ∃ front, buffer = front ++ left ∧ 4 ≤ front.length)) ∧
    (∀ buffer headerEnd, Frame.terminatorAt? buffer = some headerEnd →
      headerEnd + 4 ≤ buffer.length) ∧
    (∀ buffer, (Frame.drain buffer).1.length ≤ buffer.length / 4 ∧
      Frame.next? (Frame.drain buffer).2 = none) ∧
    ∀ profile done middle past moves last trace connection,
      Run.follow next? (fresh profile) done = some (middle, past) →
      Run.follow next? middle moves = some (last, trace) →
      arrivalsOn connection (Run.notes next? noticed middle moves) = [] →
        (reportsOn connection (Run.notes next? noticed middle moves)).length ≤
            (middle.backlog connection).length / 4 ∧
          moves.countP (Move.isTurnOf connection) ≤
            (reportsOn connection (Run.notes next? noticed middle moves)).length + 1 := by
  refine ⟨fun greatest buffer => Frame.exists_takeFrame,
    fun buffer headerEnd => Frame.le_of_terminatorAt?, ?_, ?_⟩
  · intro buffer
    have hlength := Frame.length_drain buffer
    exact ⟨by omega, Frame.next?_drain buffer⟩
  · intro profile done middle past moves last trace connection hdone hrun hnone
    have hspends := spends_of_run (recounted_of_run hdone).1 hrun hnone
    have hbytes := hspends.bytes
    have hturns := hspends.turns
    have hongoing := middle.ongoing_le connection
    constructor
    · omega
    · omega

end Runs

section Practice

/-- A length that is too great for any body, three headers without a line, and the beginning of one
more. -/
def practiceHostility : List UInt8 :=
  Text.encode
    "Content-Length: 18446744073709551615\r\n\r\n\r\n\r\n\r\n\r\n\r\n\r\nContent-Length: 9"

def practiceFlood : List Move :=
  .start :: practiceGreeting .start 1 ++
    [.task (practiceSurroundings 0 (some (.bytes practiceHostility)) .proceed) (.reader 1)]

def practicePersistence : List Move :=
  List.replicate 4 (practiceTurn (.reader 1))

theorem practiceFlood_outcome :
    ((Run.follow next? (fresh (practiceProfile 0)) practiceFlood).bind fun flooded =>
      (Run.follow next? flooded.1 practicePersistence).map fun result =>
        ((flooded.1.backlog 1).length, (result.1.backlog 1).length,
          (arrivalsOn 1 (Run.notes next? noticed flooded.1 practicePersistence)).length,
          (reportsOn 1 (Run.notes next? noticed flooded.1 practicePersistence)).length)) =
      some (69, 17, 0, 4) := by
  decide +kernel

/-- The reader reports the length and the three headers, and keeps what may become a header. -/
theorem reading_ends_of_practiceFlood : ∃ middle past last trace,
    Run.follow next? (fresh (practiceProfile 0)) practiceFlood = some (middle, past) ∧
      Run.follow next? middle practicePersistence = some (last, trace) ∧
      (middle.backlog 1).length = 69 ∧
      (reportsOn 1 (Run.notes next? noticed middle practicePersistence)).length = 4 ∧
      practicePersistence.countP (Move.isTurnOf 1) ≤ 4 + 1 := by
  obtain ⟨⟨middle, past⟩, hdone, hrest⟩ := Option.bind_eq_some_iff.mp practiceFlood_outcome
  obtain ⟨⟨last, trace⟩, hrun, hcounts⟩ := Option.map_eq_some_iff.mp hrest
  obtain ⟨hbacklog, -, hnothing, hreports⟩ : (middle.backlog 1).length = 69 ∧
      (last.backlog 1).length = 17 ∧
      (arrivalsOn 1 (Run.notes next? noticed middle practicePersistence)).length = 0 ∧
      (reportsOn 1 (Run.notes next? noticed middle practicePersistence)).length = 4 := by
    simpa only [Prod.mk.injEq] using hcounts
  obtain ⟨-, -, -, hruns⟩ := reading_ends
  obtain ⟨-, hturns⟩ := hruns (practiceProfile 0) practiceFlood middle past practicePersistence last
    trace 1 hdone hrun (List.eq_nil_of_length_eq_zero hnothing)
  rw [hreports] at hturns
  exact ⟨middle, past, last, trace, hdone, hrun, hbacklog, hreports, hturns⟩

end Practice

end NplLifecycle.Session
