import NplLifecycle.Proofs.Session.Correlation
import NplLifecycle.Proofs.Session.Manners

/-!
# Welcomes and farewells

A welcome is confirmed only after the server has answered the greeting of that connection without an
error, and leave is taken only after it has agreed to a shutdown that it was asked for on that
connection.  So for a client whose starts do not overlap, the messages on a connection are in order
and behind the welcome exactly if the owner was not hasty on it.
-/

namespace NplLifecycle.Session

/-- A request of a method went out on a connection. -/
def Asked (method : String) (connection : ConnectionId) (id : RequestId) (effects : List Effect) :
    Prop :=
  ∃ params, .write connection (.request (.ofClient id method params)) ∈ effects

/-- A request of a method that went out on a connection was answered, and not with an error. -/
def Granted (method : String) (connection : ConnectionId) (effects : List Effect)
    (journal : List Entry) : Prop :=
  ∃ id response value, Asked method connection id effects ∧ Answered id response journal ∧
    resultOf response = .ok value

/-- What a server expects of a connection: its messages are in order, only the greeting is sent
before it has granted the greeting, and leave is taken only after it has granted a shutdown. -/
structure Proper (connection : ConnectionId) (effects : List Effect) (journal : List Entry) :
    Prop where
  mannerly : Mannerly (methodsOn connection effects)
  welcomed : ∀ method ∈ methodsOn connection effects, method ≠ greetingMethod →
    Granted greetingMethod connection effects journal
  released : "exit" ∈ methodsOn connection effects →
    Granted shutdownMethod connection effects journal

/-- What goes out on a connection is covered by an answer of the server, and what is waited for went
out on the connection that the session sends on. -/
structure Vouched (session : Session) (effects : List Effect) (journal : List Entry) : Prop where
  greeting : ∀ connection id deadline,
    session.stage? = some (.greeting connection id deadline) →
      Asked greetingMethod connection id effects
  confirmed : ∀ connection, "initialized" ∈ methodsOn connection effects →
    Granted greetingMethod connection effects journal
  shutdown : ∀ connection id, session.shutdown? = some id → session.writer = some connection →
    Asked shutdownMethod connection id effects
  released : ∀ connection, "exit" ∈ methodsOn connection effects →
    Granted shutdownMethod connection effects journal

section Steps

variable {session : Session} {method : String} {connection : ConnectionId} {id : RequestId}
  {past more : List Effect} {journal later : List Entry} {move : Move}
  {outcome : Session × List Effect}

theorem Asked.append (hasked : Asked method connection id past) :
    Asked method connection id (past ++ more) := by
  obtain ⟨params, hmem⟩ := hasked
  exact ⟨params, List.mem_append_left _ hmem⟩

theorem asked_last (past : List Effect) (method : String) (connection : ConnectionId)
    (id : RequestId) (params : Json) : Asked method connection id
      (past ++ [.write connection (.request (.ofClient id method params))]) :=
  ⟨params, List.mem_append_right _ (List.mem_singleton_self _)⟩

theorem Granted.append (hgranted : Granted method connection past journal) :
    Granted method connection (past ++ more) (journal ++ later) := by
  obtain ⟨id, response, value, hasked, hanswered, hresult⟩ := hgranted
  exact ⟨id, response, value, hasked.append, hanswered.append later, hresult⟩

/-- A request that the session has a response to is granted. -/
theorem Grants.granted (hgrants : session.Grants id) (hsound : Ledger.Sound journal session.ledger)
    (hasked : Asked method connection id past) : Granted method connection past journal := by
  obtain ⟨response, value, hlookup, hresult⟩ := hgrants
  exact ⟨id, response, value, hasked, hsound.settled _ (Ledger.mem_of_lookup hlookup), hresult⟩

theorem mem_methodsOn_append : method ∈ methodsOn connection (past ++ more) ↔
    method ∈ methodsOn connection past ∨ (connection, method) ∈ methodsIn more := by
  rw [methodsOn_append, List.mem_append]
  exact Iff.or Iff.rfl mem_methodsOn

/-- A greeting that is waited for was waited for before, or has just gone out. -/
theorem Speech.greeting {deadline : Nat} (hspeech : Speech session move outcome)
    (hguided : outcome.1.Guided)
    (hwaits : outcome.1.stage? = some (.greeting connection id deadline)) :
    session.stage? = some (.greeting connection id deadline) ∨
      Asked greetingMethod connection id outcome.2 := by
  have hwriter : outcome.1.writer = some connection := hguided.writer_of_stage hwaits rfl fun h => h
  cases hspeech with
  | mute _ hnone | exit _ _ _ _ _ hnone => exact absurd (hnone.symm.trans hwriter) (by simp)
  | stay _ _ hstage | shutdown _ _ _ _ _ hstage => exact .inl (hstage.symm.trans hwaits)
  | attach _ _ _ _ hstage | listen _ _ _ hstage | confirm _ _ _ _ _ hstage =>
      exact absurd (hstage.symm.trans hwaits) (by simp)
  | greet _ heffects _ _ hstage =>
      obtain ⟨rfl, rfl, -⟩ := Stage.greeting.inj (Option.some.inj (hstage.symm.trans hwaits))
      rw [heffects]
      exact .inr (asked_last [] _ _ _ _)
  | openDocument _ _ _ hsame => exact .inl (hsame ▸ hwaits)

/-- A shutdown that is waited for was waited for before on the same connection, or the request has
just gone out. -/
theorem Speech.shutdown_asked (hspeech : Speech session move outcome)
    (hwaits : outcome.1.shutdown? = some id) (hwriter : outcome.1.writer = some connection) :
    session.shutdown? = some id ∧ session.writer = some connection ∨
      Asked shutdownMethod connection id outcome.2 := by
  cases hspeech with
  | mute _ hnone | exit _ _ _ _ _ hnone => exact absurd (hnone.symm.trans hwriter) (by simp)
  | stay _ hsends _ hcall | listen _ hsends _ _ hcall | greet _ _ hsends _ _ hcall
  | confirm _ _ _ hsends _ _ hcall =>
      exact .inl ⟨hcall.symm.trans hwaits, hsends.symm.trans hwriter⟩
  | attach _ _ _ _ _ hcall => exact absurd (hcall.symm.trans hwaits) (by simp)
  | openDocument _ _ _ hsame => exact .inl (hsame ▸ ⟨hwaits, hwriter⟩)
  | shutdown _ _ heffects hbefore hsends _ hcall =>
      obtain rfl := Option.some.inj (hcall.symm.trans hwaits)
      obtain rfl := Option.some.inj ((hsends.trans hbefore).symm.trans hwriter)
      rw [heffects]
      exact .inr (asked_last [] _ _ _ _)

/-- A welcome is confirmed when the greeting of its connection is granted. -/
theorem Speech.confirmed (hspeech : Speech session move outcome)
    (hmem : (connection, "initialized") ∈ methodsIn outcome.2) :
    ∃ id deadline, session.stage? = some (.greeting connection id deadline) ∧
      session.Grants id := by
  cases hspeech with
  | mute hsilent | stay hsilent | attach hsilent | listen hsilent =>
      rw [hsilent] at hmem
      exact absurd hmem List.not_mem_nil
  | greet _ heffects | shutdown _ _ heffects =>
      rw [heffects, methodsIn_request] at hmem
      exact absurd (Prod.mk.inj (List.mem_singleton.mp hmem)).2 (by decide)
  | openDocument _ hmethods | exit _ _ hmethods =>
      rw [hmethods] at hmem
      exact absurd (Prod.mk.inj (List.mem_singleton.mp hmem)).2 (by decide)
  | confirm _ hmethods hgrants _ hbefore =>
      rw [hmethods] at hmem
      obtain rfl := (Prod.mk.inj (List.mem_singleton.mp hmem)).1
      exact ⟨_, _, hbefore, hgrants⟩

/-- Leave is taken when the shutdown that was asked for is granted. -/
theorem Speech.released (hspeech : Speech session move outcome)
    (hmem : (connection, "exit") ∈ methodsIn outcome.2) :
    ∃ id, session.shutdown? = some id ∧ session.writer = some connection ∧ session.Grants id := by
  cases hspeech with
  | mute hsilent | stay hsilent | attach hsilent | listen hsilent =>
      rw [hsilent] at hmem
      exact absurd hmem List.not_mem_nil
  | greet _ heffects | shutdown _ _ heffects =>
      rw [heffects, methodsIn_request] at hmem
      exact absurd (Prod.mk.inj (List.mem_singleton.mp hmem)).2 (by decide)
  | openDocument _ hmethods | confirm _ hmethods =>
      rw [hmethods] at hmem
      exact absurd (Prod.mk.inj (List.mem_singleton.mp hmem)).2 (by decide)
  | exit _ hcall hmethods hgrants hbefore =>
      rw [hmethods] at hmem
      obtain rfl := (Prod.mk.inj (List.mem_singleton.mp hmem)).1
      exact ⟨_, hcall, hbefore, hgrants⟩

/-- What is said is covered. -/
theorem Vouched.step (hvouched : Vouched session past journal)
    (hsound : Ledger.Sound journal session.ledger) (hspeech : Speech session move outcome)
    (hguided : outcome.1.Guided) :
    Vouched outcome.1 (past ++ outcome.2) (journal ++ later) where
  greeting connection id deadline hwaits := by
    rcases hspeech.greeting hguided hwaits with hbefore | ⟨params, hnow⟩
    · exact (hvouched.greeting connection id deadline hbefore).append
    · exact ⟨params, List.mem_append_right _ hnow⟩
  confirmed connection hmem := by
    rcases mem_methodsOn_append.mp hmem with hearlier | hnow
    · exact (hvouched.confirmed connection hearlier).append
    · obtain ⟨id, deadline, hwaits, hgrants⟩ := hspeech.confirmed hnow
      exact (hgrants.granted hsound (hvouched.greeting connection id deadline hwaits)).append
  shutdown connection id hwaits hwriter := by
    rcases hspeech.shutdown_asked hwaits hwriter with ⟨hcall, hsends⟩ | ⟨params, hnow⟩
    · exact (hvouched.shutdown connection id hcall hsends).append
    · exact ⟨params, List.mem_append_right _ hnow⟩
  released connection hmem := by
    rcases mem_methodsOn_append.mp hmem with hearlier | hnow
    · exact (hvouched.released connection hearlier).append
    · obtain ⟨id, hwaits, hwriter, hgrants⟩ := hspeech.released hnow
      exact (hgrants.granted hsound (hvouched.shutdown connection id hwaits hwriter)).append

end Steps

section Runs

variable {profile : ClientProfile} {moves : List Move} {last : Session} {trace : List Effect}

theorem vouched_fresh (profile : ClientProfile) : Vouched (fresh profile) [] [] where
  greeting := by simp [fresh, stage?]
  confirmed := by simp [mem_methodsOn, methodsIn, writtenIn]
  shutdown := by simp [fresh]
  released := by simp [mem_methodsOn, methodsIn, writtenIn]

theorem vouched_of_run (hrun : Run.follow next? (fresh profile) moves = some (last, trace))
    (hseparate : Run.tally next? overlaps (fresh profile) moves = 0) :
    Vouched last trace (Run.notes next? entries (fresh profile) moves) := by
  suffices hkept : (last.Tenure ∧ last.Settling ∧
      Accounted last trace (Run.notes next? entries (fresh profile) moves)) ∧
      Vouched last trace (Run.notes next? entries (fresh profile) moves) from hkept.2
  refine Run.follow_tally_induction (fun session past journal =>
    (session.Tenure ∧ session.Settling ∧ Accounted session past journal) ∧
      Vouched session past journal) ?_ ?_ hrun hseparate
  · exact ⟨⟨tenure_fresh profile, settling_fresh profile, accounted_fresh profile⟩,
      vouched_fresh profile⟩
  · rintro before past journal move after effects - hother
      ⟨⟨htenure, hsettling, haccounted⟩, hvouched⟩ hmove
    have hpassage := next?_passage hmove
    have htenure' := hpassage.tenure htenure hother
    exact ⟨⟨htenure', hpassage.settling htenure.toGuided hsettling, haccounted.step hmove⟩,
      hvouched.step haccounted.sound (speech_of_next? hmove htenure hsettling)
        htenure'.toGuided⟩

/-- Where starts do not overlap, a connection is as the server expects exactly if the owner was not
hasty on it; leave is never taken before the shutdown is granted.  As this holds at the end of every
run, it holds at every time. -/
theorem proper_iff_of_run (hrun : Run.follow next? (fresh profile) moves = some (last, trace))
    (hseparate : Run.tally next? overlaps (fresh profile) moves = 0) (connection : ConnectionId) :
    (Proper connection trace (Run.notes next? entries (fresh profile) moves) ↔
      connection ∉ Run.notes next? hastens (fresh profile) moves) ∧
    ("exit" ∈ methodsOn connection trace → Granted shutdownMethod connection trace
      (Run.notes next? entries (fresh profile) moves)) := by
  have hcourteous := courteous_of_run hrun hseparate
  have hvouched := vouched_of_run hrun hseparate
  refine ⟨⟨fun hproper hhasty => hcourteous.broken connection hhasty hproper.mannerly,
    fun hpatient => ?_⟩, hvouched.released connection⟩
  have hmannerly := (hcourteous.said connection hpatient).mannerly
  exact ⟨hmannerly, fun method hmem hother =>
    hvouched.confirmed connection (hmannerly.confirmed hmem hother), hvouched.released connection⟩

def practiceOpening : Move :=
  .openDocument (practiceSurroundings 0 none .proceed) ⟨"file", "file:///w/a.npl"⟩ "npl" "x"

def practiceStart : List Move :=
  .start :: practiceGreeting .start 1 ++ practiceAnswers 1 ["1"] ++
    [practiceTurn (.steward 0), practiceTurn .call]

def practiceService : List Move :=
  practiceStart ++ [practiceOpening, .stop (practiceSurroundings 0 none .proceed)] ++
    practiceAnswers 1 ["2"] ++ [practiceTurn .call]

/-- The connection is lost, and a document is opened while the server is greeted on the next one. -/
def practiceHaste : List Move :=
  practiceStart ++ practiceLoss 1 .proceed ++ practiceGreeting (.steward 0) 2 ++ [practiceOpening]

set_option maxRecDepth 100000 in
theorem practiceService_methods :
    (Run.follow next? (fresh (practiceProfile 3)) practiceService).map (fun result =>
      methodsOn 1 result.2) =
      some ["initialize", "initialized", "textDocument/didOpen", "shutdown", "exit"] := by
  decide +kernel

set_option maxRecDepth 100000 in
theorem practiceHaste_methods :
    (Run.follow next? (fresh (practiceProfile 3)) practiceHaste).map (fun result =>
      methodsOn 2 result.2) = some ["initialize", "textDocument/didOpen"] := by
  decide +kernel

theorem proper_of_practiceService : ∃ last trace,
    Run.follow next? (fresh (practiceProfile 3)) practiceService = some (last, trace) ∧
      methodsOn 1 trace =
        ["initialize", "initialized", "textDocument/didOpen", "shutdown", "exit"] ∧
      Proper 1 trace (Run.notes next? entries (fresh (practiceProfile 3)) practiceService) := by
  obtain ⟨⟨last, trace⟩, hrun, hmethods⟩ := Option.map_eq_some_iff.mp practiceService_methods
  have hseparate : Run.tally next? overlaps (fresh (practiceProfile 3)) practiceService = 0 := by
    decide +kernel
  have hpatient : 1 ∉ Run.notes next? hastens (fresh (practiceProfile 3)) practiceService := by
    decide +kernel
  exact ⟨last, trace, hrun, hmethods, (proper_iff_of_run hrun hseparate 1).1.mpr hpatient⟩

/-- The document is opened before the welcome. -/
theorem not_proper_of_practiceHaste : ∃ last trace,
    Run.follow next? (fresh (practiceProfile 3)) practiceHaste = some (last, trace) ∧
      methodsOn 2 trace = ["initialize", "textDocument/didOpen"] ∧
      ¬Proper 2 trace (Run.notes next? entries (fresh (practiceProfile 3)) practiceHaste) := by
  obtain ⟨⟨last, trace⟩, hrun, hmethods⟩ := Option.map_eq_some_iff.mp practiceHaste_methods
  refine ⟨last, trace, hrun, hmethods, fun hproper => ?_⟩
  have hmannerly := hproper.mannerly
  rw [hmethods] at hmannerly
  exact not_mannerly_second (by decide) hmannerly

end Runs

end NplLifecycle.Session
