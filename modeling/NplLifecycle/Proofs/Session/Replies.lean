import NplLifecycle.Proofs.Session.Correlation
import NplLifecycle.Proofs.Session.Hearing

/-!
# Answers to the requests of the server

Over all runs of a client: the responses that go out are those to the requests of the server, one
for each, in the order in which they arrive, each with the identifier of its request.  As long as
writes succeed they go out on the connection that the request came from; a client whose starts do
not overlap never sends one on another connection.
-/

namespace NplLifecycle.Session

def repliesOn (connection : ConnectionId) (effects : List Effect) : List Response :=
  (repliesIn effects).filterMap fun reply => if reply.1 = connection then some reply.2 else none

def requestsOf (frames : List Frame.Outcome) : List Request :=
  frames.filterMap requestIn?

/-- Writes succeed on a connection: whenever one of its frames was handled the session could send on
it, and on no connection else. -/
def Writes (connection : ConnectionId) (heard : List Hearing) : Prop :=
  ∀ other found outlet, .frame other found outlet ∈ heard →
    (outlet = some connection ↔ other = connection)

/-- Where a frame was handled, the session could send on the frame's connection or on none. -/
def Faithful (heard : List Hearing) : Prop :=
  ∀ connection found outlet, .frame connection found (some outlet) ∈ heard → outlet = connection

def knownMethods : List String :=
  "workspace/workspaceFolders" :: "workspace/configuration" :: grantedMethods

/-- A response suits a request of the server. -/
structure Suits (request : Request) (response : Response) : Prop where
  id : response.id = some request.id
  known : request.method ∈ knownMethods → response.refusal = none
  /-- As many nulls as there are items. -/
  listed : request.method = "workspace/configuration" →
    ∀ items, request.params.get? "items" = some (.arr items) →
      response.result = some (.arr (List.replicate items.length .null))
  unlisted : request.method = "workspace/configuration" →
    (∀ items, request.params.get? "items" ≠ some (.arr items)) →
      response.result = some (.arr [])
  unknown : request.method ∉ knownMethods →
    ∃ refusal, response.refusal = some refusal ∧ refusal.code = -32601

/-- What a run says of the requests of the server. -/
structure Replied (profile : ClientProfile) (last : Session) (trace : List Effect)
    (heard : List Hearing) : Prop where
  /-- The responses that go out are those to the requests that were heard while the session could
  send: one for each, in their order, on the connection that it could send on. -/
  answered : repliesIn trace = heard.filterMap (Hearing.answer? profile)
  suited : ∀ request, Suits request (answerTo profile request)
  /-- What was handled on a connection is what its bytes come to, up to what its reader still has in
  its buffer. -/
  followed : ∀ reader ∈ last.readers, Streams (bytesOn reader.connection heard)
    (framesOn reader.connection heard) reader.buffer
  /-- Once a reader has no whole frame left, the requests in the bytes of its connection are
  answered on it, and nothing else, as long as writes succeed. -/
  complete : ∀ reader ∈ last.readers, Frame.next? reader.buffer = none →
    Writes reader.connection heard → repliesOn reader.connection trace =
      (requestsOf (Frame.drain (bytesOn reader.connection heard)).1).map (answerTo profile)
  /-- A reader that reads gets there by turns of its own, if its faults are forgiven. -/
  handled : ∀ reader ∈ last.readers, reader.IsReading →
    ∀ around, (∀ event, around.decide event = .proceed) →
      ∃ after effects final, Run.follow next? last (List.replicate
          (Frame.drain reader.buffer).1.length (.task around (.reader reader.connection))) =
            some (after, effects) ∧
        after.reader? reader.connection = some final ∧ Frame.next? final.buffer = none

section Turns

variable {session : Session} {around : Surroundings} {reader : Reader}

/-- A reader whose faults are forgiven handles a frame and reads on. -/
theorem exists_turn {found : Frame.Outcome} {rest : List UInt8}
    (hreader : session.reader? reader.connection = some reader) (hreads : reader.IsReading)
    (hdecide : ∀ event, around.decide event = .proceed)
    (hframe : Frame.next? reader.buffer = some (found, rest)) :
    ∃ after effects changed,
      session.next? (.task around (.reader reader.connection)) = some (after, effects) ∧
      after.reader? reader.connection = some changed ∧ changed.connection = reader.connection ∧
      changed.IsReading ∧ changed.buffer = rest := by
  have hfits : Reading.Fits around reader (.handle found rest) := ⟨hreads.1, hframe⟩
  obtain ⟨outcome, changed, hmove, hchanged, hturn⟩ := exists_turn_of_fits hreader hreads.2 hfits
  obtain ⟨-, -, -, hsame, -⟩ := hturn.frame hreads.2
  refine ⟨_, _, changed, hmove, hchanged, hsame, ?_⟩
  cases hturn with
  | message => exact ⟨hreads, rfl⟩
  | fault => exact ⟨⟨hreads.1, congrArg exitAfter (hdecide _)⟩, rfl⟩

/-- By turns of its own a reader whose faults are forgiven handles all that it has in its buffer. -/
theorem exists_turns (hreader : session.reader? reader.connection = some reader)
    (hreads : reader.IsReading) (hdecide : ∀ event, around.decide event = .proceed) :
    ∃ last effects final, Run.follow next? session (List.replicate
        (Frame.drain reader.buffer).1.length (.task around (.reader reader.connection))) =
          some (last, effects) ∧
      last.reader? reader.connection = some final ∧ Frame.next? final.buffer = none := by
  generalize hcount : (Frame.drain reader.buffer).1.length = count
  induction count generalizing session reader with
  | zero =>
      refine ⟨session, [], reader, rfl, hreader, ?_⟩
      cases hframe : Frame.next? reader.buffer with
      | none => rfl
      | some whole =>
          rw [Frame.drain_of_some hframe] at hcount
          exact absurd hcount (Nat.succ_ne_zero _)
  | succ count ih =>
      cases hframe : Frame.next? reader.buffer with
      | none =>
          rw [Frame.drain_of_none hframe] at hcount
          exact absurd hcount.symm (Nat.succ_ne_zero _)
      | some whole =>
          rw [Frame.drain_of_some hframe] at hcount
          obtain ⟨after, effects, changed, hmove, hchanged, hsame, hreads', hrest⟩ :=
            exists_turn hreader hreads hdecide hframe
          rw [← hsame] at hchanged
          obtain ⟨last, more, final, hrun, hfinal, hnone⟩ :=
            ih hchanged hreads' (by rw [hrest]; exact Nat.succ.inj hcount)
          rw [hsame] at hrun hfinal
          exact ⟨last, effects ++ more, final,
            Run.follow_cons_eq_some.mpr ⟨after, effects, more, hmove, hrun, rfl⟩, hfinal, hnone⟩

end Turns

section Runs

variable {profile : ClientProfile} {moves : List Move} {last : Session} {trace : List Effect}
  {heard : List Hearing} {connection : ConnectionId}

theorem suits_answerTo (profile : ClientProfile) (request : Request) :
    Suits request (answerTo profile request) where
  id := by
    rw [answerTo, reply]
    split
    · split <;> rfl
    · split
      · rfl
      · split <;> rfl
  known hknown := by
    rw [answerTo, reply]
    split
    · split <;> rfl
    · rename_i hfolders
      split
      · rfl
      · rename_i hconfiguration
        have hgranted : request.method ∈ grantedMethods :=
          (List.mem_cons.mp ((List.mem_cons.mp hknown).resolve_left hfolders)).resolve_left
            hconfiguration
        rw [if_pos (List.contains_iff_mem.mpr hgranted)]
        rfl
  listed hmethod items hitems := by
    simp [answerTo, reply, hmethod, Response.grant, itemCount, hitems, Json.items?]
  unlisted hmethod hnone := by
    have hcount : itemCount request.params = 0 := by
      rw [itemCount]
      cases hfound : request.params.get? "items" with
      | none => rfl
      | some value =>
          cases value with
          | arr items => exact absurd hfound (hnone items)
          | _ => rfl
    simp [answerTo, reply, hmethod, Response.grant, hcount]
  unknown hunknown := by
    simp only [knownMethods, List.mem_cons, not_or] at hunknown
    have hgranted : ¬grantedMethods.contains request.method = true :=
      fun hcontains => hunknown.2.2 (List.contains_iff_mem.mp hcontains)
    rw [answerTo, reply, if_neg hunknown.1, if_neg hunknown.2.1, if_neg hgranted]
    exact ⟨_, rfl, rfl⟩

theorem repliesOn_heard (hwrites : Writes connection heard) :
    ((heard.filterMap (Hearing.answer? profile)).filterMap fun reply =>
        if reply.1 = connection then some reply.2 else none) =
      (requestsOf (framesOn connection heard)).map (answerTo profile) := by
  induction heard with
  | nil => rfl
  | cons hearing heard ih =>
      have hrest := ih fun other found outlet hmem =>
        hwrites other found outlet (List.mem_cons_of_mem _ hmem)
      cases hearing with
      | chunk other bytes => exact hrest
      | frame other found outlet =>
          have hwrite := hwrites other found outlet List.mem_cons_self
          by_cases hsame : other = connection
          · obtain rfl := hwrite.mpr hsame
            have hframes : framesOn connection (.frame other found (some connection) :: heard) =
                found :: framesOn connection heard := by
              simp [framesOn, Hearing.frameOn?, hsame]
            rw [hframes, requestsOf, List.filterMap_cons, List.filterMap_cons, Hearing.answer?]
            cases requestIn? found with
            | none => exact hrest
            | some request =>
                rw [Option.map_some, List.filterMap_cons, if_pos rfl, hrest]
                rfl
          · have hframes : framesOn connection (.frame other found outlet :: heard) =
                framesOn connection heard := by
              simp [framesOn, Hearing.frameOn?, hsame]
            rw [hframes, ← hrest, List.filterMap_cons]
            cases outlet with
            | none => rfl
            | some outlet =>
                have hother : outlet ≠ connection := fun hequal =>
                  hsame (hwrite.mp (congrArg some hequal))
                rw [Hearing.answer?]
                cases requestIn? found with
                | none => rfl
                | some request => simp [hother]

/-- What every move keeps. -/
theorem attentive_of_run (hrun : Run.follow next? (fresh profile) moves = some (last, trace)) :
    (last.Apart ∧ last.profile = profile ∧
      last.Follows (Run.notes next? hearings (fresh profile) moves)) ∧
      repliesIn trace = (Run.notes next? hearings (fresh profile) moves).filterMap
        (Hearing.answer? profile) := by
  refine Run.follow_notes_induction (fun session past heard =>
    (session.Apart ∧ session.profile = profile ∧ session.Follows heard) ∧
      repliesIn past = heard.filterMap (Hearing.answer? profile)) ?_ ?_ hrun
  · exact ⟨⟨apart_fresh profile, rfl, ⟨by simp, by simp [fresh]⟩⟩, rfl⟩
  · rintro before past heard move after effects - ⟨⟨hapart, hprofile, hfollows⟩, hpast⟩ hmove
    have hpassage := next?_passage hmove
    refine ⟨⟨hpassage.apart hapart, hpassage.profile.trans hprofile,
      hfollows.step hpassage hapart⟩, ?_⟩
    rw [repliesIn_append, List.filterMap_append, hpast, hpassage.repliesIn_eq, hprofile]

/-- Whoever reads can send on the connection that is read from, or on none. -/
theorem Guided.outlet_of_hears {session : Session} {around : Surroundings} {found : Frame.Outcome}
    {outlet : ConnectionId} {other : ConnectionId} (hguided : session.Guided)
    (hmem : .frame other found (some outlet) ∈ session.hears around connection) :
    outlet = other := by
  rw [hears] at hmem
  cases hreading : session.reading? around connection with
  | none =>
      rw [hreading] at hmem
      exact absurd hmem List.not_mem_nil
  | some read =>
      obtain ⟨reader, reading⟩ := read
      rw [hreading] at hmem
      obtain ⟨hreader, hexit, hfits⟩ := reading?_eq_some.mp hreading
      cases reading with
      | quit => exact absurd hmem List.not_mem_nil
      | handle outcome rest =>
          obtain ⟨rfl, -, houtlet⟩ := Hearing.frame.inj (List.mem_singleton.mp hmem)
          obtain ⟨hreader_mem, hsame⟩ := reader?_eq_some hreader
          have hwriter :=
            (hguided.upkeep.online_of_reading hreader_mem ⟨hfits.1, hexit⟩).writer
          have hsends := (Option.filter_eq_some_iff.mp houtlet.symm).1
          exact (Option.some.inj (hwriter.symm.trans hsends)).symm.trans hsame
      | take arrival =>
          cases arrival with
          | bytes chunk => exact absurd (List.mem_singleton.mp hmem) (by simp)
          | finish | failure => exact absurd hmem List.not_mem_nil

theorem faithful_of_run (hrun : Run.follow next? (fresh profile) moves = some (last, trace))
    (hseparate : Run.tally next? overlaps (fresh profile) moves = 0) :
    Faithful (Run.notes next? hearings (fresh profile) moves) := by
  suffices hkept : last.Tenure ∧ Faithful (Run.notes next? hearings (fresh profile) moves) from
    hkept.2
  refine Run.follow_tally_induction (fun session _ heard => session.Tenure ∧ Faithful heard)
    ⟨tenure_fresh profile, by simp [Faithful]⟩ ?_ hrun hseparate
  rintro before past heard move after effects - hother ⟨htenure, hfaithful⟩ hmove
  refine ⟨(next?_passage hmove).tenure htenure hother, ?_⟩
  intro connection found outlet hmem
  rcases List.mem_append.mp hmem with hearlier | hnow
  · exact hfaithful connection found outlet hearlier
  · cases move with
    | task around task =>
        cases task with
        | reader reads => exact htenure.toGuided.outlet_of_hears hnow
        | call | steward => exact absurd hnow List.not_mem_nil
    | _ => exact absurd hnow List.not_mem_nil

/-- Every request of the server is answered exactly once.  Where starts do not overlap, no response
goes out on another connection than the one that its request came from. -/
theorem replied_of_run (hrun : Run.follow next? (fresh profile) moves = some (last, trace)) :
    Replied profile last trace (Run.notes next? hearings (fresh profile) moves) ∧
      (Run.tally next? overlaps (fresh profile) moves = 0 →
        Faithful (Run.notes next? hearings (fresh profile) moves)) := by
  obtain ⟨⟨hapart, -, hfollows⟩, hanswered⟩ := attentive_of_run hrun
  refine ⟨⟨hanswered, suits_answerTo profile, hfollows.streams, ?_, ?_⟩, faithful_of_run hrun⟩
  · intro reader hmem hnone hwrites
    have hstream := hfollows.streams reader hmem
    rw [Streams, Frame.drain_of_none hnone, List.append_nil] at hstream
    rw [repliesOn, hanswered, repliesOn_heard hwrites, hstream]
  · intro reader hmem hreads around hdecide
    exact exists_turns (reader?_of_mem hapart.distinct hmem) hreads hdecide

end Runs

section Practice

/-- A request of the server for two settings, and one with the same identifier that nobody knows. -/
def practiceRequests : List UInt8 :=
  Frame.encode ("\x7b\"jsonrpc\":\"2.0\",\"id\":\"a\",\"method\":\"workspace/configuration\"," ++
    "\"params\":\x7b\"items\":[0,1]\x7d\x7d") ++
    Frame.encode "\x7b\"jsonrpc\":\"2.0\",\"id\":\"a\",\"method\":\"npl/unknown\"\x7d"

def practiceChunk (bytes : List UInt8) : Move :=
  .task (practiceSurroundings 0 (some (.bytes bytes)) .proceed) (.reader 1)

/-- The requests arrive in two pieces while the server is greeted. -/
def practiceInquiry : List Move :=
  .start :: practiceGreeting .start 1 ++
    [practiceChunk (practiceRequests.take 40), practiceChunk (practiceRequests.drop 40),
      practiceTurn (.reader 1), practiceTurn (.reader 1)]

set_option maxRecDepth 100000 in
theorem practiceInquiry_replies :
    (Run.follow next? (fresh (practiceProfile 0)) practiceInquiry).map (fun result =>
      repliesIn result.2) =
      some [(1, .grant (.text "a") (.arr [.null, .null])),
        (1, .refuse (.text "a") (-32601) "Method 'npl/unknown' not supported by client")] := by
  decide +kernel

theorem replied_of_practiceInquiry : ∃ last trace,
    Run.follow next? (fresh (practiceProfile 0)) practiceInquiry = some (last, trace) ∧
      repliesIn trace = [(1, .grant (.text "a") (.arr [.null, .null])),
        (1, .refuse (.text "a") (-32601) "Method 'npl/unknown' not supported by client")] ∧
      Replied (practiceProfile 0) last trace
        (Run.notes next? hearings (fresh (practiceProfile 0)) practiceInquiry) ∧
      Faithful (Run.notes next? hearings (fresh (practiceProfile 0)) practiceInquiry) := by
  obtain ⟨⟨last, trace⟩, hrun, hreplies⟩ := Option.map_eq_some_iff.mp practiceInquiry_replies
  have hseparate : Run.tally next? overlaps (fresh (practiceProfile 0)) practiceInquiry = 0 := by
    decide +kernel
  obtain ⟨hreplied, hfaithful⟩ := replied_of_run hrun
  exact ⟨last, trace, hrun, hreplies, hreplied, hfaithful hseparate⟩

end Practice

end NplLifecycle.Session
