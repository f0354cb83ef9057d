import NplLifecycle.Proofs.Session.Ending
import NplLifecycle.Proofs.Session.Recounting
import NplLifecycle.Proofs.Session.Replies

/-!
# Readers recite their streams

A reader gets to its end by its own turns as soon as its stream has one, however the stream is cut.
What it has reported then is the recital of the whole stream: if the error handler ended it, however
the stream goes on, and otherwise up to the end of the stream.  The faults are numbered from one, so
that whatever an error handler keeps in mind, its decisions about them are a function.
-/

namespace NplLifecycle.Session

/-! A reader gets to the end of its stream by turns of its own. -/

/-- The same surroundings, with something to read on every connection or nothing, and with an error
handler. -/
def Surroundings.bring (around : Surroundings) (arrival? : Option Arrival)
    (decide : ConnectionEvent → Decision) : Surroundings :=
  { around with
    arrival := fun _ => arrival?
    decide := decide }

/-- By turns of its own a reader gets from one session to another: it takes what arrives, and
reports what comes of it. -/
def Advances (around : Surroundings) (decide : ConnectionEvent → Decision)
    (connection : ConnectionId) (before after : Session) (taken : List Arrival)
    (reports : List Report) : Prop :=
  ∃ moves trace, Run.follow next? before moves = some (after, trace) ∧
    (∀ move ∈ moves, ∃ arrival?, move = .task (around.bring arrival? decide) (.reader connection)) ∧
    arrivalsOn connection (Run.notes next? noticed before moves) = taken ∧
    reportsOn connection (Run.notes next? noticed before moves) = reports

section Progress

variable {session middle after : Session} {around : Surroundings} {reader changed : Reader}
  {reading : Reading} {decide : ConnectionEvent → Decision} {connection : ConnectionId}
  {taken later : List Arrival} {reports more : List Report} {noted : List Notice}
  {outcome : Session × List Effect}

theorem advances_refl (around : Surroundings) (decide : ConnectionEvent → Decision)
    (connection : ConnectionId) (session : Session) :
    Advances around decide connection session session [] [] :=
  ⟨[], [], rfl, by simp, rfl, rfl⟩

theorem Advances.trans (hfirst : Advances around decide connection session middle taken reports)
    (hsecond : Advances around decide connection middle after later more) :
    Advances around decide connection session after (taken ++ later) (reports ++ more) := by
  obtain ⟨early, trace, hearly, hearlyOwn, rfl, rfl⟩ := hfirst
  obtain ⟨late, rest, hlate, hlateOwn, rfl, rfl⟩ := hsecond
  have hnotes : Run.notes next? noticed session (early ++ late) =
      Run.notes next? noticed session early ++ Run.notes next? noticed middle late :=
    Run.notes_append hearly
  refine ⟨early ++ late, trace ++ rest,
    Run.follow_append_eq_some.mpr ⟨middle, trace, rest, hearly, hlate, rfl⟩, ?_, ?_, ?_⟩
  · intro move hmem
    exact (List.mem_append.mp hmem).elim (hearlyOwn move) (hlateOwn move)
  · rw [hnotes, arrivalsOn_append]
  · rw [hnotes, reportsOn_append]

/-- A reader that has a frame or finds something to read takes a turn. -/
theorem exists_turn_of_ready (around : Surroundings)
    (hreader : session.reader? reader.connection = some reader)
    (hreads : reader.IsReading)
    (hready : Frame.next? reader.buffer ≠ none ∨
      (around.arrival reader.connection).isSome = true) :
    ∃ outcome reading changed,
      session.next? (.task around (.reader reader.connection)) = some outcome ∧
      outcome.1.reader? reader.connection = some changed ∧
      ReaderTurn around session reader reading changed outcome := by
  obtain ⟨reading, hfits⟩ : ∃ reading : Reading, reading.Fits around reader := by
    cases hframe : Frame.next? reader.buffer with
    | some whole => exact ⟨.handle whole.1 whole.2, hreads.1, hframe⟩
    | none =>
        obtain ⟨arrival, harrival⟩ :=
          Option.isSome_iff_exists.mp (hready.resolve_left (not_not.mpr hframe))
        exact ⟨.take arrival, hreads.1, hframe, harrival⟩
  obtain ⟨outcome, changed, hmove, hchanged, hturn⟩ := exists_turn_of_fits hreader hreads.2 hfits
  exact ⟨outcome, reading, changed, hmove, hchanged, hturn⟩

theorem ReaderTurn.heeds (hturn : ReaderTurn around session reader reading changed outcome) :
    Heeds around.decide
      (reportsOn reader.connection (reading.notices around.decide reader)) := by
  intro event decision hmem
  cases hturn with
  | cancelled | bytes | finish => simp [Reading.notices] at hmem
  | message _ _ htold =>
      rw [notices_of_message htold] at hmem
      simp at hmem
  | fault _ _ htold =>
      rw [notices_of_fault htold] at hmem
      simp only [reportsOn_reported, on_nil, List.mem_singleton, Report.faulted.injEq] at hmem
      rw [hmem.1, hmem.2]
  | failure =>
      simp only [Reading.notices, reportsOn_taken, reportsOn_reported, on_nil, List.mem_singleton,
        Report.faulted.injEq] at hmem
      rw [hmem.1, hmem.2]

/-- One turn, with what it takes and what it reports. -/
theorem advances_of_next? {arrival? : Option Arrival}
    (hmove : session.next? (.task (around.bring arrival? decide) (.reader connection)) =
      some outcome) (hnoted : session.notices (around.bring arrival? decide) connection = noted) :
    Advances around decide connection session outcome.1 (arrivalsOn connection noted)
      (reportsOn connection noted) := by
  have hnotes : Run.notes next? noticed session
      [.task (around.bring arrival? decide) (.reader connection)] = noted := by
    rw [Run.notes_cons hmove, ← hnoted]
    exact List.append_nil _
  refine ⟨_, _, Run.follow_singleton hmove, ?_, by rw [hnotes], by rw [hnotes]⟩
  intro move hmem
  exact ⟨arrival?, List.mem_singleton.mp hmem⟩

/-- A reader that has a frame handles it, and the error handler may end it. -/
theorem exists_handled (around : Surroundings) (decide : ConnectionEvent → Decision)
    {found : Frame.Outcome} {rest : List UInt8}
    (hreader : session.reader? connection = some reader) (hreads : reader.IsReading)
    (hframe : Frame.next? reader.buffer = some (found, rest)) :
    ∃ after changed reports, Advances around decide connection session after [] reports ∧
      Heeds decide reports ∧ after.reader? connection = some changed ∧ changed.buffer = rest ∧
      (changed.exit = some .aborted ∨ changed.IsReading) := by
  obtain ⟨-, rfl⟩ := reader?_eq_some hreader
  obtain ⟨outcome, reading, changed, hmove, hchanged, hturn⟩ :=
    exists_turn_of_ready (around.bring none decide) hreader hreads (.inl (by simp [hframe]))
  have hheeds : Heeds decide _ := hturn.heeds
  have hadvances := advances_of_next? hmove (hturn.notices_eq hreader hreads.2)
  cases hturn with
  | cancelled hcancelled => rw [hreads.1] at hcancelled; simp at hcancelled
  | message _ hsame =>
      obtain ⟨rfl, rfl⟩ := Prod.mk.inj (Option.some.inj (hsame.symm.trans hframe))
      exact ⟨_, _, _, hadvances, hheeds, hchanged, rfl, .inr hreads⟩
  | @fault _ _ event _ hsame =>
      obtain ⟨rfl, rfl⟩ := Prod.mk.inj (Option.some.inj (hsame.symm.trans hframe))
      refine ⟨_, _, _, hadvances, hheeds, hchanged, rfl, ?_⟩
      cases hdecision : decide event with
      | abort => exact .inl (congrArg exitAfter hdecision)
      | proceed => exact .inr ⟨hreads.1, congrArg exitAfter hdecision⟩
  | bytes _ hnone | finish _ hnone | failure _ hnone => rw [hframe] at hnone; simp at hnone

/-- A reader goes through the frames in its buffer, until the error handler ends it. -/
theorem exists_drained (around : Surroundings) (decide : ConnectionEvent → Decision)
    (hreader : session.reader? connection = some reader) (hreads : reader.IsReading) :
    ∃ after final reports, Advances around decide connection session after [] reports ∧
      Heeds decide reports ∧ after.reader? connection = some final ∧
      (final.exit = some .aborted ∨ final.IsReading ∧ Frame.next? final.buffer = none) := by
  generalize hcount : (Frame.drain reader.buffer).1.length = count
  induction count generalizing session reader with
  | zero =>
      refine ⟨session, reader, [], advances_refl around decide connection session, by simp [Heeds],
        hreader, .inr ⟨hreads, ?_⟩⟩
      cases hframe : Frame.next? reader.buffer with
      | none => rfl
      | some whole =>
          rw [Frame.drain_of_some hframe] at hcount
          exact absurd hcount (Nat.succ_ne_zero _)
  | succ count ih =>
      cases hframe : Frame.next? reader.buffer with
      | none =>
          rw [Frame.drain_of_none hframe] at hcount
          exact absurd hcount.symm (Nat.succ_ne_zero _)
      | some whole =>
          rw [Frame.drain_of_some hframe] at hcount
          obtain ⟨middle, changed, reports, hfirst, hheeds, hchanged, hrest, hgoes⟩ :=
            exists_handled around decide hreader hreads hframe
          rcases hgoes with haborted | hreading
          · exact ⟨middle, changed, reports, hfirst, hheeds, hchanged, .inl haborted⟩
          · obtain ⟨after, final, more, hlater, hagain, hfinal, hends⟩ :=
              ih hchanged hreading (by rw [hrest]; exact Nat.succ.inj hcount)
            exact ⟨after, final, reports ++ more, hfirst.trans hlater, hheeds.append hagain,
              hfinal, hends⟩

/-- A reader that has no frame takes what arrives. -/
theorem exists_taken (around : Surroundings) (decide : ConnectionEvent → Decision)
    (arrival : Arrival) (hreader : session.reader? connection = some reader)
    (hreads : reader.IsReading) (hframe : Frame.next? reader.buffer = none) :
    ∃ after changed reports, Advances around decide connection session after [arrival] reports ∧
      Heeds decide reports ∧ after.reader? connection = some changed ∧
      ((∃ chunk, arrival = .bytes chunk) ∧ changed.IsReading ∨
        (∃ ending, arrival = StreamEnd.arrival ending) ∧ changed.exit.isSome = true) := by
  obtain ⟨-, rfl⟩ := reader?_eq_some hreader
  obtain ⟨outcome, reading, changed, hmove, hchanged, hturn⟩ :=
    exists_turn_of_ready (around.bring (some arrival) decide) hreader hreads (.inr rfl)
  have hheeds : Heeds decide _ := hturn.heeds
  have hadvances := advances_of_next? hmove (hturn.notices_eq hreader hreads.2)
  cases hturn with
  | cancelled hcancelled => rw [hreads.1] at hcancelled; simp at hcancelled
  | message _ hsome | fault _ hsome => rw [hframe] at hsome; simp at hsome
  | bytes _ _ harrival =>
      obtain rfl := Option.some.inj harrival
      rw [arrivalsOn_notices_take] at hadvances
      exact ⟨_, _, _, hadvances, hheeds, hchanged, .inl ⟨⟨_, rfl⟩, hreads⟩⟩
  | finish _ _ harrival =>
      obtain rfl := Option.some.inj harrival
      rw [arrivalsOn_notices_take] at hadvances
      exact ⟨_, _, _, hadvances, hheeds, hchanged, .inr ⟨⟨.finish, rfl⟩, rfl⟩⟩
  | @failure cause _ _ _ harrival =>
      obtain rfl := Option.some.inj harrival
      rw [arrivalsOn_notices_take] at hadvances
      exact ⟨_, _, _, hadvances, hheeds, hchanged, .inr ⟨⟨.failure cause, rfl⟩, rfl⟩⟩

/-- However a stream is cut, a reader gets to its end or is ended by the error handler. -/
theorem exists_ended (around : Surroundings) (decide : ConnectionEvent → Decision)
    (chunks : List (List UInt8)) (ending : StreamEnd)
    (hreader : session.reader? connection = some reader) (hreads : reader.IsReading) :
    ∃ after final taken reports, Advances around decide connection session after taken reports ∧
      Heeds decide reports ∧ after.reader? connection = some final ∧
      ∃ left, taken ++ left = chunks.map .bytes ++ [ending.arrival] ∧
        (final.exit = some .aborted ∧ endingOf? taken = none ∨
          final.exit.isSome = true ∧ left = []) := by
  induction chunks generalizing session reader with
  | nil =>
      obtain ⟨middle, changed, reports, hfirst, hheeds, hchanged, haborted | ⟨hreading, hnone⟩⟩ :=
        exists_drained around decide hreader hreads
      · exact ⟨middle, changed, [], reports, hfirst, hheeds, hchanged, _, rfl,
          .inl ⟨haborted, rfl⟩⟩
      · obtain ⟨after, final, more, hlater, hagain, hfinal, hends⟩ :=
          exists_taken around decide ending.arrival hchanged hreading hnone
        refine ⟨after, final, _, _, hfirst.trans hlater, hheeds.append hagain, hfinal, [], rfl, ?_⟩
        rcases hends with ⟨⟨chunk, hbytes⟩, -⟩ | ⟨-, hended⟩
        · cases ending <;> simp [StreamEnd.arrival] at hbytes
        · exact .inr ⟨hended, rfl⟩
  | cons chunk chunks ih =>
      obtain ⟨middle, changed, reports, hfirst, hheeds, hchanged, haborted | ⟨hreading, hnone⟩⟩ :=
        exists_drained around decide hreader hreads
      · exact ⟨middle, changed, [], reports, hfirst, hheeds, hchanged, _, rfl,
          .inl ⟨haborted, rfl⟩⟩
      · obtain ⟨next, further, more, hsecond, hagain, hfurther, hgoes⟩ :=
          exists_taken around decide (.bytes chunk) hchanged hreading hnone
        have hstill : further.IsReading := by
          rcases hgoes with ⟨-, hstill⟩ | ⟨⟨ending, hbytes⟩, -⟩
          · exact hstill
          · cases ending <;> simp [StreamEnd.arrival] at hbytes
        obtain ⟨after, final, taken, last, hlater, honce, hfinal, left, hleft, hends⟩ :=
          ih hfurther hstill
        refine ⟨after, final, _, _, (hfirst.trans hsecond).trans hlater,
          (hheeds.append hagain).append honce, hfinal, left, ?_, hends⟩
        rw [List.map_cons, List.cons_append, ← hleft]
        rfl

end Progress

/-! What has been reported once a reader is over. -/

section Results

variable {profile : ClientProfile} {last : Session} {reader : Reader}
  {decide : ConnectionEvent → Decision} {arrivals : List Arrival} {reports : List Report}
  {moves : List Move} {trace : List Effect} {faults : Nat}

theorem Recites.of_aborted (hrecites : Recites decide arrivals reports reader)
    (hending : endingOf? arrivals = none) (hexit : reader.exit = some .aborted)
    (more : List UInt8) (ending : Option StreamEnd) :
    recital decide (bytesOf arrivals ++ more) ending = ⟨reports, reader.faults, some .aborted⟩ := by
  cases hrecites with
  | @underway frames hstreams _ hrecite =>
      rw [hexit] at hrecite
      rw [← hrecite]
      exact recital_of_aborted (congrArg Prod.fst hstreams) (congrArg Recital.exit hrecite) more
        ending
  | cancelled _ _ _ hclosed => rw [hexit] at hclosed; simp at hclosed
  | ended _ _ hended => rw [hending] at hended; simp at hended

theorem Recites.of_ended {ending : StreamEnd} (hrecites : Recites decide arrivals reports reader)
    (hending : endingOf? arrivals = some ending) :
    reader.exit.isSome = true ∧ recital decide (bytesOf arrivals) (some ending) =
      ⟨reports, reader.faults, reader.exit⟩ := by
  cases hrecites with
  | underway _ hnone | cancelled _ hnone => rw [hending] at hnone; simp at hnone
  | @ended frames last hstreams hframe hended _ hrecite =>
      obtain rfl : ending = last := Option.some.inj (hending.symm.trans hended)
      have hover := isSome_exit_conclude decide (recite decide frames) ending
      rw [hrecite] at hover
      have hframes : (Frame.drain (bytesOf arrivals)).1 = frames := by
        rw [hstreams, Frame.drain_of_none hframe]
        exact List.append_nil _
      refine ⟨hover, ?_⟩
      rw [recital, hframes]
      exact hrecite

theorem Recites.of_unfinished (hrecites : Recites decide arrivals reports reader)
    (hending : endingOf? arrivals = none) (hexit : reader.exit ≠ some .aborted) :
    (∃ frames, (Frame.drain (bytesOf arrivals)).1 = frames ++ (Frame.drain reader.buffer).1 ∧
      recite decide frames = ⟨reports, reader.faults, none⟩) ∧
      (reader.exit = some .closed → reader.isCancelled = true) := by
  cases hrecites with
  | @underway frames hstreams _ hrecite =>
      have hnone : reader.exit = none := by
        have hends : (recite decide frames).exit = none ∨
            (recite decide frames).exit = some .aborted := recite_exit frames
        rw [hrecite] at hends
        exact hends.resolve_right hexit
      refine ⟨⟨frames, congrArg Prod.fst hstreams, hnone ▸ hrecite⟩, fun hclosed => ?_⟩
      rw [hnone] at hclosed
      simp at hclosed
  | cancelled hstreams _ hcancelled _ hrecite =>
      exact ⟨⟨_, congrArg Prod.fst hstreams, hrecite⟩, fun _ => hcancelled⟩
  | ended _ _ hended => rw [hending] at hended; simp at hended

/-- What is reported with one number is reported once. -/
theorem eq_of_count? {first second : Report} {count : Nat}
    (hnodup : (reports.filterMap Report.count?).Nodup) (hfirst : first ∈ reports)
    (hsecond : second ∈ reports) (hcount : first.count? = some count)
    (hsame : second.count? = some count) : first = second := by
  induction reports with
  | nil => exact absurd hfirst List.not_mem_nil
  | cons report rest ih =>
      have hlater : ∀ other ∈ rest, other.count? = some count →
          count ∈ rest.filterMap Report.count? :=
        fun other hother hother_count => List.mem_filterMap.mpr ⟨other, hother, hother_count⟩
      have hrest : (rest.filterMap Report.count?).Nodup :=
        hnodup.sublist ((List.sublist_cons_self report rest).filterMap _)
      have hhead : report.count? = some count → count ∉ rest.filterMap Report.count? := by
        intro hreport
        rw [List.filterMap_cons_some hreport] at hnodup
        exact (List.nodup_cons.mp hnodup).1
      rcases List.mem_cons.mp hfirst with rfl | hearly
      · rcases List.mem_cons.mp hsecond with rfl | hlate
        · rfl
        · exact absurd (hlater second hlate hsame) (hhead hcount)
      · rcases List.mem_cons.mp hsecond with rfl | hlate
        · exact absurd (hlater first hearly hcount) (hhead hsame)
        · exact ih hrest hearly hlate

/-- The decisions of an error handler about the faults of a connection are a function of what it was
told. -/
theorem exists_heeds (hnumbered : Numbered reports faults) : ∃ decide, Heeds decide reports := by
  have hnodup : (reports.filterMap Report.count?).Nodup := by
    rw [hnumbered]
    exact List.nodup_range'
  refine ⟨fun event => (reports.findSome? (Report.decisionOn? event)).getD .abort, ?_⟩
  intro event decision hmem
  have hthere : reports.findSome? (Report.decisionOn? event) ≠ none := by
    intro hnone
    have hnever := List.findSome?_eq_none_iff.mp hnone _ hmem
    simp [Report.decisionOn?] at hnever
  obtain ⟨found, hfound⟩ := Option.ne_none_iff_exists'.mp hthere
  obtain ⟨report, hreport, hdecided⟩ := List.exists_of_findSome?_eq_some hfound
  have hsame : report = .faulted event found := by
    cases report with
    | dispatched message => simp [Report.decisionOn?] at hdecided
    | faulted other decided =>
        rw [Report.decisionOn?] at hdecided
        split at hdecided
        · rename_i heq
          rw [heq, Option.some.inj hdecided]
        · simp at hdecided
  obtain ⟨count, hcount, hagain⟩ : ∃ count, (Report.faulted event found).count? = some count ∧
      (Report.faulted event decision).count? = some count := by
    cases event with
    | fault chain body count => exact ⟨count, rfl, rfl⟩
    | closed => exact ⟨0, rfl, rfl⟩
  have hone := eq_of_count? hnodup (hsame ▸ hreport) hmem hcount hagain
  dsimp only
  rw [hfound]
  exact (Report.faulted.inj hone).2

end Results

/-! What is noted is what the session does. -/

def Effect.taken? : Effect → Option ConnectionId
  | .take connection => some connection
  | _ => none

/-- The event that an effect tells the error handler of, with the decision. -/
def Effect.consultation? : Effect → Option (ConnectionEvent × Decision)
  | .consult event decision => some (event, decision)
  | _ => none

/-- The event that was reported as a fault, with the decision. -/
def Report.consultation? : Report → Option (ConnectionEvent × Decision)
  | .dispatched _ => none
  | .faulted event decision => some (event, decision)

/-- What is noted of a reader's turn is what the session does, and the session does nothing else: it
takes what has arrived, consults the error handler about each fault that is reported, and dispatches
the message that is reported. -/
structure Conveys (around : Surroundings) (session : Session) (connection : ConnectionId)
    (outcome : Session × List Effect) : Prop where
  arrived : ∀ arrival ∈ arrivalsOn connection (session.notices around connection),
    around.arrival connection = some arrival
  taken : outcome.2.filterMap Effect.taken? =
    (arrivalsOn connection (session.notices around connection)).map fun _ => connection
  consulted : outcome.2.filterMap Effect.consultation? =
    (reportsOn connection (session.notices around connection)).filterMap Report.consultation?
  /-- One report at most comes of a turn. -/
  single : (reportsOn connection (session.notices around connection)).length ≤ 1
  dispatched : ∀ message,
    .dispatched message ∈ reportsOn connection (session.notices around connection) →
      ∃ changed, outcome = (session.setReader changed).dispatch around message ∧
        changed.connection = connection
  /-- Where no message is reported the reader changes, and nothing but what it takes and whom it
  consults comes of that. -/
  undispatched : (∀ message,
    .dispatched message ∉ reportsOn connection (session.notices around connection)) →
      (∃ changed, outcome.1 = session.setReader changed ∧ changed.connection = connection) ∧
        ∀ effect ∈ outcome.2, effect = .take connection ∨
          ∃ event decision, effect = .consult event decision

section Results

variable {profile : ClientProfile} {session last : Session} {around : Surroundings}
  {connection : ConnectionId} {outcome : Session × List Effect} {moves : List Move}
  {trace : List Effect}

/-- To dispatch a message neither takes anything nor consults anybody. -/
theorem filterMap_dispatch {Value : Type} {kind? : Effect → Option Value} (message : Message)
    (hlog : ∀ line, kind? (.log line) = none)
    (hwrite : ∀ connection reply, kind? (.write connection reply) = none) :
    (session.dispatch around message).2.filterMap kind? = [] := by
  refine List.filterMap_eq_nil_iff.mpr fun effect hmem => ?_
  rcases effect_of_dispatch hmem with ⟨line, rfl⟩ | ⟨place, reply, rfl⟩
  · exact hlog line
  · exact hwrite place reply

theorem conveys_of_next?
    (hmove : session.next? (.task around (.reader connection)) = some outcome) :
    Conveys around session connection outcome := by
  have hstep : session.stepReader around connection = some outcome := hmove
  obtain ⟨reader, reading, changed, hreader, hexit, rfl, hturn⟩ := stepReader_turn hstep
  have hnoted := hturn.notices_eq hreader hexit
  cases hturn with
  | cancelled =>
      rw [Reading.notices] at hnoted
      constructor <;> simp only [hnoted]
      case undispatched => exact fun _ => ⟨⟨_, rfl, rfl⟩, by simp⟩
      all_goals simp
  | message _ _ htold =>
      rw [notices_of_message htold] at hnoted
      constructor <;> simp only [hnoted]
      case taken => exact filterMap_dispatch _ (fun _ => rfl) fun _ _ => rfl
      case consulted =>
        rw [filterMap_dispatch _ (fun _ => rfl) fun _ _ => rfl]
        simp [Report.consultation?]
      case dispatched =>
        intro message hmem
        simp only [reportsOn_reported, on_nil, List.mem_singleton, Report.dispatched.injEq] at hmem
        exact hmem ▸ ⟨_, rfl, rfl⟩
      all_goals simp
  | fault _ _ htold =>
      rw [notices_of_fault htold] at hnoted
      constructor <;> simp only [hnoted]
      case consulted => simp [Effect.consultation?, Report.consultation?]
      case undispatched => exact fun _ => ⟨⟨_, rfl, rfl⟩, by simp⟩
      all_goals simp [Effect.taken?]
  | bytes _ _ harrival | finish _ _ harrival =>
      rw [Reading.notices] at hnoted
      constructor <;> simp only [hnoted]
      case undispatched => exact fun _ => ⟨⟨_, rfl, rfl⟩, by simp⟩
      all_goals simp [harrival, Effect.taken?, Effect.consultation?]
  | failure _ _ harrival hevent =>
      rw [Reading.notices] at hnoted
      constructor <;> simp only [hnoted]
      case consulted =>
        rw [hevent]
        simp [List.filterMap_cons, Effect.consultation?, Report.consultation?]
      case undispatched => exact fun _ => ⟨⟨_, rfl, rfl⟩, by simp⟩
      all_goals simp [harrival, Effect.taken?]

/-- What a run says of a reader: of the arrivals that it took and of what it reported. -/
structure Recited (last : Session) (decide : ConnectionEvent → Decision)
    (arrivals : List Arrival) (reports : List Report) (reader : Reader) : Prop where
  /-- While it reads it has recited the frames that it has handled; so has one that was told to end,
  and the others end otherwise. -/
  unfinished : endingOf? arrivals = none → reader.exit ≠ some .aborted →
    (∃ frames, (Frame.drain (bytesOf arrivals)).1 = frames ++ (Frame.drain reader.buffer).1 ∧
      recite decide frames = ⟨reports, reader.faults, none⟩) ∧
      (reader.exit = some .closed → reader.isCancelled = true)
  /-- After the error handler ended it nothing more comes, whatever else the stream holds. -/
  aborted : endingOf? arrivals = none → reader.exit = some .aborted → ∀ more ending,
    recital decide (bytesOf arrivals ++ more) ending = ⟨reports, reader.faults, some .aborted⟩
  /-- After the end of the stream it has recited the whole stream. -/
  ended : ∀ ending, endingOf? arrivals = some ending → reader.exit.isSome = true ∧
    recital decide (bytesOf arrivals) (some ending) = ⟨reports, reader.faults, reader.exit⟩
  /-- However the rest of the stream is cut and however it ends, turns of its own take a reader that
  reads to its end, and it has recited the whole stream then. -/
  completes : reader.IsReading →
    ∀ (around : Surroundings) (chunks : List (List UInt8)) (ending : StreamEnd),
    ∃ after final taken more,
    Advances around decide reader.connection last after taken more ∧
      (∃ left, taken ++ left = chunks.map .bytes ++ [ending.arrival]) ∧
      after.reader? reader.connection = some final ∧ final.exit.isSome = true ∧
      recital decide (bytesOf arrivals ++ chunks.flatten) (some ending) =
        ⟨reports ++ more, final.faults, final.exit⟩

theorem bytesOf_stream (chunks : List (List UInt8)) (ending : StreamEnd) :
    bytesOf (chunks.map .bytes ++ [ending.arrival]) = chunks.flatten := by
  have hchunks : bytesOf (chunks.map .bytes) = chunks.flatten := by
    rw [bytesOf, List.flatMap_map]
    exact List.flatMap_id
  rw [bytesOf_append, hchunks]
  cases ending <;> exact List.append_nil _

theorem endingOf?_stream (chunks : List (List UInt8)) (ending : StreamEnd) :
    endingOf? (chunks.map .bytes ++ [ending.arrival]) = some ending := by
  have hchunks : endingOf? (chunks.map .bytes) = none := by
    refine List.findSome?_eq_none_iff.mpr fun arrival hmem => ?_
    obtain ⟨chunk, -, rfl⟩ := List.mem_map.mp hmem
    rfl
  rw [endingOf?_append hchunks]
  cases ending <;> rfl

/-- A run may go on with turns of a reader. -/
theorem Advances.recounted {after : Session} {decide : ConnectionEvent → Decision}
    {taken : List Arrival} {more : List Report}
    (hrun : Run.follow next? (fresh profile) moves = some (last, trace))
    (hadvances : Advances around decide connection last after taken more) :
    ∃ noted, after.Recounted noted ∧
      arrivalsOn connection noted =
        arrivalsOn connection (Run.notes next? noticed (fresh profile) moves) ++ taken ∧
      reportsOn connection noted =
        reportsOn connection (Run.notes next? noticed (fresh profile) moves) ++ more := by
  obtain ⟨own, rest, hown, -, rfl, rfl⟩ := hadvances
  have hnotes : Run.notes next? noticed (fresh profile) (moves ++ own) =
      Run.notes next? noticed (fresh profile) moves ++ Run.notes next? noticed last own :=
    Run.notes_append hrun
  have hall := Run.follow_append_eq_some.mpr ⟨last, trace, rest, hrun, hown, rfl⟩
  refine ⟨_, (recounted_of_run hall).2, ?_, ?_⟩
  · rw [hnotes, arrivalsOn_append]
  · rw [hnotes, reportsOn_append]

theorem recited_of_heeds {reader : Reader} {decide : ConnectionEvent → Decision}
    (hrun : Run.follow next? (fresh profile) moves = some (last, trace))
    (hmem : reader ∈ last.readers) (hheeds : Heeds decide
      (reportsOn reader.connection (Run.notes next? noticed (fresh profile) moves))) :
    Recited last decide
      (arrivalsOn reader.connection (Run.notes next? noticed (fresh profile) moves))
      (reportsOn reader.connection (Run.notes next? noticed (fresh profile) moves)) reader := by
  obtain ⟨hapart, hrecounted⟩ := recounted_of_run hrun
  have hrecites := hrecounted.recites reader hmem decide hheeds
  refine ⟨hrecites.of_unfinished, hrecites.of_aborted, fun ending => hrecites.of_ended, ?_⟩
  intro hreads around chunks ending
  obtain ⟨frames, -, hopen, -⟩ := hrecites.of_reading hreads.2
  obtain ⟨after, final, taken, more, hadvances, hagain, hfinal, left, hleft, hends⟩ :=
    exists_ended around decide chunks ending (reader?_of_mem hapart.distinct hmem) hreads
  obtain ⟨noted, hlast, harrivals, hreports⟩ := hadvances.recounted hrun
  obtain ⟨hfinal_mem, hsame⟩ := reader?_eq_some hfinal
  have hover := hlast.recites final hfinal_mem decide
    (by rw [hsame, hreports]; exact hheeds.append hagain)
  rw [hsame, harrivals, hreports] at hover
  refine ⟨after, final, taken, more, hadvances, ⟨left, hleft⟩, hfinal, ?_⟩
  rcases hends with ⟨haborted, hnone⟩ | ⟨hended, rfl⟩
  · -- What is left of the stream makes no difference.
    have hbytes : bytesOf taken ++ bytesOf left = chunks.flatten := by
      rw [← bytesOf_append, hleft, bytesOf_stream]
    refine ⟨by rw [haborted]; rfl, ?_⟩
    have hresult := hover.of_aborted ((endingOf?_append hopen).trans hnone) haborted
      (bytesOf left) (some ending)
    rwa [bytesOf_append, List.append_assoc, hbytes, ← haborted] at hresult
  · have hwhole : taken = chunks.map .bytes ++ [ending.arrival] := by
      rw [← hleft, List.append_nil]
    have htaken : endingOf? taken = some ending := by
      rw [hwhole, endingOf?_stream]
    have hresult := (hover.of_ended ((endingOf?_append hopen).trans htaken)).2
    refine ⟨hended, ?_⟩
    rwa [bytesOf_append, hwhole, bytesOf_stream] at hresult

/-- A reader is a fold over the bytes of its connection: over all runs, whatever an error handler
decides and however the bytes are cut, it reports the recital of its stream.  The faults of a
connection are numbered from one, and told with the text of the frame exactly if there is one that
is no message. -/
theorem verbatim_of_run (hrun : Run.follow next? (fresh profile) moves = some (last, trace)) :
    (∀ reader ∈ last.readers,
      Numbered (reportsOn reader.connection (Run.notes next? noticed (fresh profile) moves))
        reader.faults ∧
      (∃ decide, Heeds decide
        (reportsOn reader.connection (Run.notes next? noticed (fresh profile) moves))) ∧
      ∀ decide, Heeds decide
          (reportsOn reader.connection (Run.notes next? noticed (fresh profile) moves)) →
        Recited last decide
          (arrivalsOn reader.connection (Run.notes next? noticed (fresh profile) moves))
          (reportsOn reader.connection (Run.notes next? noticed (fresh profile) moves)) reader) ∧
    (∀ (session : Session) around connection outcome,
      session.next? (.task around (.reader connection)) = some outcome →
        Conveys around session connection outcome) ∧
    ∀ found count event, told found count = .error event → ∃ chain body,
      event = .fault chain body count ∧ ∀ text, body = some text ↔ found = .ok text := by
  refine ⟨?_, fun session around connection outcome => conveys_of_next?,
    fun found count event => told_eq_error⟩
  intro reader hmem
  have hnumbered := (recounted_of_run hrun).2.numbered reader hmem
  exact ⟨hnumbered, exists_heeds hnumbered, fun decide => recited_of_heeds hrun hmem⟩

end Results

section Practice

/-- A frame that is no message, a notification, a body that is no object, and a frame more. -/
def practiceBabble : List UInt8 :=
  Frame.encode "\x7b\x7d" ++ Frame.encode "\x7b\"jsonrpc\":\"2.0\",\"method\":\"m\"\x7d" ++
    Frame.encode "[" ++ Frame.encode "\x7b\x7d"

/-- The stream arrives in two pieces; the error handler forgives the first fault, and ends the
session over the second. -/
def practiceReading : List Move :=
  .start :: practiceGreeting .start 1 ++
    [practiceChunk (practiceBabble.take 30), practiceTurn (.reader 1),
      practiceChunk (practiceBabble.drop 30), practiceTurn (.reader 1),
      .task (practiceSurroundings 0 none .abort) (.reader 1)]

def practiceNotices : List Notice :=
  Run.notes next? noticed (fresh (practiceProfile 0)) practiceReading

set_option maxRecDepth 100000 in
theorem practiceReading_outcome :
    (Run.follow next? (fresh (practiceProfile 0)) practiceReading).map (fun result =>
      result.1.readers.map fun reader => (reader.connection, reader.faults, reader.exit)) =
      some [(1, 2, some .aborted)] ∧
    (arrivalsOn 1 practiceNotices =
        [.bytes (practiceBabble.take 30), .bytes (practiceBabble.drop 30)] ∧
      (reportsOn 1 practiceNotices).map (fun report =>
          (report.count?, report.consultation?.map Prod.snd)) =
        [(some 1, some .proceed), (none, none), (some 2, some .abort)]) := by
  decide +kernel

/-- Whatever follows in the stream, nothing more would come of it. -/
theorem verbatim_of_practiceReading : ∃ last trace decide,
    Run.follow next? (fresh (practiceProfile 0)) practiceReading = some (last, trace) ∧
      Heeds decide (reportsOn 1 practiceNotices) ∧
      ∀ more ending, recital decide (practiceBabble ++ more) ending =
        ⟨reportsOn 1 practiceNotices, 2, some .aborted⟩ := by
  obtain ⟨houtcome, harrivals, -⟩ := practiceReading_outcome
  obtain ⟨⟨last, trace⟩, hrun, hreaders⟩ := Option.map_eq_some_iff.mp houtcome
  obtain ⟨reader, hsingle, hreader⟩ := List.map_eq_singleton_iff.mp hreaders
  obtain ⟨hconnection, hfaults, hexit⟩ : reader.connection = 1 ∧ reader.faults = 2 ∧
      reader.exit = some .aborted := by
    simpa using hreader
  have hmem : reader ∈ last.readers := by
    rw [hsingle]
    exact List.mem_singleton_self reader
  obtain ⟨-, ⟨decide, hheeds⟩, hrecited⟩ := (verbatim_of_run hrun).1 reader hmem
  have haborted := (hrecited decide hheeds).aborted
  rw [hconnection] at haborted hheeds
  rw [← practiceNotices, harrivals, hfaults] at haborted
  refine ⟨last, trace, decide, hrun, hheeds, fun more ending => ?_⟩
  have hbytes : bytesOf [.bytes (practiceBabble.take 30), .bytes (practiceBabble.drop 30)] =
      practiceBabble := by
    simp [bytesOf, Arrival.content]
  rw [← hbytes]
  exact haborted rfl hexit more ending

end Practice

end NplLifecycle.Session
