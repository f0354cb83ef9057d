import NplLifecycle.Proofs.Session.Speech

/-!
# The order of the messages on a connection

A server expects a greeting, a confirmation of its welcome, documents, a request to shut down and a
farewell, in this order.  A client whose starts do not overlap keeps to it on every connection on
which its owner is patient: who opens a document or begins a stop before the welcome on a connection
was confirmed, or opens a document while a stop waits, is hasty, and on such a connection the order
is broken at once and for good.
-/

namespace NplLifecycle.Session

/-- The methods of the messages that the client originates on a connection. -/
def methodsOn (connection : ConnectionId) (effects : List Effect) : List String :=
  (methodsIn effects).filterMap fun sent => if sent.1 = connection then some sent.2 else none

/-- The server is greeted, its welcome is confirmed, and some documents are opened. -/
def opening (documents : Nat) : List String :=
  greetingMethod :: "initialized" :: List.replicate documents "textDocument/didOpen"

def Mannerly (methods : List String) : Prop :=
  ∃ documents, methods <+: opening documents ++ [shutdownMethod, "exit"]

/-- A welcome was confirmed on the connection that the steward is at, and no stop waits. -/
def isReady (session : Session) : Bool :=
  match session.stage? with
  | some (.serving _) => session.shutdown?.isNone
  | _ => false

/-- The connections on which the server is told what the owner wants too early, or behind a request
to shut down. -/
def hastens (session : Session) (move : Move) : List ConnectionId :=
  if move.isWish && !session.isReady then
    (session.next? move).elim [] fun made => (methodsIn made.2).map Prod.fst
  else []

/-- What has been said on a connection on which the owner was patient. -/
inductive Said (session : Session) (connection : ConnectionId) : List String → Prop
  /-- The session does not send on the connection. -/
  | elsewhere {methods : List String} (hwriter : session.writer ≠ some connection)
      (hmannerly : Mannerly methods) (hunread : session.Unread connection → methods = []) :
      Said session connection methods
  | unmet (hstage : session.stage? = some (.attached connection) ∨
        session.stage? = some (.listening connection))
      (hcall : session.shutdown? = none) : Said session connection []
  | greeted {id : RequestId} {deadline : Nat}
      (hstage : session.stage? = some (.greeting connection id deadline))
      (hcall : session.shutdown? = none) : Said session connection [greetingMethod]
  | served (documents : Nat) (hstage : session.stage? = some (.serving connection))
      (hcall : session.shutdown? = none) : Said session connection (opening documents)
  | dismissed (documents : Nat) (hstage : session.stage? = some (.serving connection))
      (hcall : session.shutdown?.isSome) :
      Said session connection (opening documents ++ [shutdownMethod])

section Orders

variable {methods more : List String} {method : String}

theorem Mannerly.of_append (hmannerly : Mannerly (methods ++ more)) : Mannerly methods := by
  obtain ⟨documents, hstarts⟩ := hmannerly
  exact ⟨documents, (List.prefix_append methods more).trans hstarts⟩

theorem opening_append (documents : Nat) :
    opening documents ++ ["textDocument/didOpen"] = opening (documents + 1) := by
  rw [opening, opening, List.replicate_succ']
  rfl

theorem mannerly_opening (documents : Nat) : Mannerly (opening documents) :=
  ⟨documents, List.prefix_append _ _⟩

theorem mannerly_farewell (documents : Nat) :
    Mannerly (opening documents ++ [shutdownMethod] ++ ["exit"]) :=
  ⟨documents, by simp⟩

theorem mannerly_greeting : Mannerly [greetingMethod] :=
  ⟨0, _, rfl⟩

theorem mannerly_nil : Mannerly [] :=
  ⟨0, List.nil_prefix⟩

/-- What the owner wants is not what a server expects first. -/
theorem not_mannerly_first (hfirst : method ≠ greetingMethod) : ¬Mannerly [method] := by
  rintro ⟨documents, hstarts⟩
  exact hfirst (List.cons_prefix_cons.mp hstarts).1

/-- What the owner wants is not what a server expects behind the greeting. -/
theorem not_mannerly_second (hsecond : method ≠ "initialized") :
    ¬Mannerly [greetingMethod, method] := by
  rintro ⟨documents, hstarts⟩
  exact hsecond (List.cons_prefix_cons.mp (List.cons_prefix_cons.mp hstarts).2).1

/-- Behind a request to shut down, no document is opened. -/
theorem not_mannerly_late (documents : Nat) :
    ¬Mannerly (opening documents ++ [shutdownMethod] ++ ["textDocument/didOpen"]) := by
  rintro ⟨others, hstarts⟩
  have hrest := (List.cons_prefix_cons.mp (List.cons_prefix_cons.mp hstarts).2).2
  clear hstarts
  induction documents generalizing others with
  | zero =>
      cases others with
      | zero => exact absurd hrest (by decide)
      | succ others => exact absurd (List.cons_prefix_cons.mp hrest).1 (by decide)
  | succ documents ih =>
      cases others with
      | zero => exact absurd (List.cons_prefix_cons.mp hrest).1 (by decide)
      | succ others => exact ih others (List.cons_prefix_cons.mp hrest).2

/-- A second message confirms the welcome. -/
theorem Mannerly.confirmed (hmannerly : Mannerly methods) (hmem : method ∈ methods)
    (hother : method ≠ greetingMethod) : "initialized" ∈ methods := by
  obtain ⟨documents, hstarts⟩ := hmannerly
  cases methods with
  | nil => exact absurd hmem List.not_mem_nil
  | cons first rest =>
      obtain ⟨rfl, hrest⟩ := List.cons_prefix_cons.mp hstarts
      cases rest with
      | nil => exact absurd (List.mem_singleton.mp hmem) hother
      | cons second rest =>
          obtain ⟨rfl, -⟩ := List.cons_prefix_cons.mp hrest
          simp

end Orders

section Steps

variable {session after : Session} {connection other : ConnectionId} {methods : List String}
  {method : String} {early late : List Effect} {move : Move} {outcome : Session × List Effect}

theorem methodsOn_append : methodsOn connection (early ++ late) =
    methodsOn connection early ++ methodsOn connection late := by
  rw [methodsOn, methodsIn_append, List.filterMap_append]
  rfl

theorem methodsOn_of_silent (hsilent : methodsIn late = []) : methodsOn connection late = [] := by
  rw [methodsOn, hsilent]
  rfl

theorem methodsOn_of_single (hmethods : methodsIn late = [(other, method)]) :
    methodsOn connection late = if other = connection then [method] else [] := by
  rw [methodsOn, hmethods, List.filterMap_cons, List.filterMap_nil]
  split <;> rename_i hsame <;> split at hsame <;> simp_all

theorem mem_methodsOn :
    method ∈ methodsOn connection late ↔ (connection, method) ∈ methodsIn late := by
  simp [methodsOn]

/-- The stage of the steward says on which connection the session sends. -/
theorem Guided.writer_of_stage (hguided : session.Guided) {stage : Stage}
    (hstage : session.stage? = some stage) (hplace : stage.connection? = some connection)
    (hsends : ¬stage.Expects) :
    session.writer = some connection := by
  have hupkeep := hguided.upkeep
  rw [hstage] at hupkeep
  cases stage with
  | connected place => exact absurd trivial hsends
  | attached place | listening place | greeting place _ _ | serving place =>
      exact Option.some.inj hplace ▸ hupkeep.1.writer
  | bereft | reconnecting => exact absurd hplace (by simp [Stage.connection?])

theorem Said.mannerly (hsaid : Said session connection methods) : Mannerly methods := by
  cases hsaid with
  | elsewhere _ hmannerly => exact hmannerly
  | unmet => exact mannerly_nil
  | greeted => exact mannerly_greeting
  | served documents => exact mannerly_opening documents
  | dismissed documents => exact (mannerly_farewell documents).of_append

/-- Where nobody has read, nothing was said. -/
theorem Said.eq_nil (hsaid : Said session connection methods) (hguided : session.Guided)
    (hunread : session.Unread connection) : methods = [] := by
  have hupkeep := hguided.upkeep
  cases hsaid with
  | elsewhere _ _ hnone => exact hnone hunread
  | unmet => rfl
  | greeted hstage | served _ hstage | dismissed _ hstage =>
      rw [hstage] at hupkeep
      exact absurd hupkeep.2.2 hunread

/-- The session turns to another connection, or to none. -/
theorem Said.leave (hsaid : Said session connection methods) (hguided : session.Guided)
    (hlasts : Lasts session after) (hwriter : after.writer ≠ some connection) :
    Said after connection methods :=
  .elsewhere hwriter hsaid.mannerly fun hunread =>
    hsaid.eq_nil hguided fun hmem => hunread (hlasts.connections connection hmem)

theorem Said.stay (hsaid : Said session connection methods) (hlasts : Lasts session after)
    (hwriter : after.writer = session.writer) (hstage : after.stage? = session.stage?)
    (hcall : after.shutdown? = session.shutdown?) : Said after connection methods := by
  cases hsaid with
  | elsewhere hother hmannerly hunread =>
      exact .elsewhere (hwriter ▸ hother) hmannerly fun hnone =>
        hunread fun hmem => hnone (hlasts.connections connection hmem)
  | unmet hbefore hidle => exact .unmet (hstage ▸ hbefore) (hcall.trans hidle)
  | greeted hbefore hidle => exact .greeted (hstage.trans hbefore) (hcall.trans hidle)
  | served documents hbefore hidle =>
      exact .served documents (hstage.trans hbefore) (hcall.trans hidle)
  | dismissed documents hbefore hwaits =>
      exact .dismissed documents (hstage.trans hbefore) (hcall ▸ hwaits)

theorem isReady_of_serving (hstage : session.stage? = some (.serving connection))
    (hcall : session.shutdown? = none) : session.isReady = true := by
  simp [isReady, hstage, hcall]

/-- Who is patient is ready when something is said at the owner's wish. -/
theorem isReady_of_patient (hnext : session.next? move = some outcome) (hmove : move.isWish = true)
    (hmethods : methodsIn outcome.2 = [(connection, method)])
    (hpatient : connection ∉ session.hastens move) : session.isReady = true := by
  cases hready : session.isReady with
  | true => rfl
  | false =>
      refine absurd ?_ hpatient
      simp [hastens, hmove, hready, hnext, hmethods]

/-- When the session is ready and sends on a connection, documents may be opened on it. -/
theorem Said.of_isReady (hsaid : Said session connection methods) (hready : session.isReady = true)
    (hwriter : session.writer = some connection) :
    ∃ documents, methods = opening documents ∧ session.stage? = some (.serving connection) ∧
      session.shutdown? = none := by
  cases hsaid with
  | elsewhere hother => exact absurd hwriter hother
  | unmet hstage =>
      rcases hstage with hstage | hstage <;> simp [isReady, hstage] at hready
  | greeted hstage => simp [isReady, hstage] at hready
  | served documents hstage hcall => exact ⟨documents, rfl, hstage, hcall⟩
  | dismissed documents hstage hwaits =>
      simp only [isReady, hstage, Option.isNone_iff_eq_none] at hready
      simp [hready] at hwaits

/-- Before the greeting nothing was said. -/
theorem Said.of_unmet (hsaid : Said session connection methods)
    (hwriter : session.writer = some connection)
    (hstage : session.stage? = some (.attached connection) ∨
      session.stage? = some (.listening connection)) :
    methods = [] ∧ session.shutdown? = none := by
  cases hsaid with
  | elsewhere hother => exact absurd hwriter hother
  | unmet _ hcall => exact ⟨rfl, hcall⟩
  | greeted hat | served _ hat | dismissed _ hat =>
      rcases hstage with hstage | hstage <;> exact absurd (hstage.symm.trans hat) (by simp)

/-- Before the welcome only the greeting was said. -/
theorem Said.of_greeted {id : RequestId} {deadline : Nat} (hsaid : Said session connection methods)
    (hwriter : session.writer = some connection)
    (hstage : session.stage? = some (.greeting connection id deadline)) :
    methods = [greetingMethod] ∧ session.shutdown? = none := by
  cases hsaid with
  | elsewhere hother => exact absurd hwriter hother
  | unmet hat => simp [hstage] at hat
  | greeted _ hcall => exact ⟨rfl, hcall⟩
  | served _ hat | dismissed _ hat => exact absurd (hstage.symm.trans hat) (by simp)

/-- While a stop waits, nothing was said behind its request. -/
theorem Said.of_stopping {id : RequestId} (hsaid : Said session connection methods)
    (hwriter : session.writer = some connection) (hcall : session.shutdown? = some id) :
    ∃ documents, methods = opening documents ++ [shutdownMethod] ∧
      session.stage? = some (.serving connection) := by
  cases hsaid with
  | elsewhere hother => exact absurd hwriter hother
  | unmet _ hidle | greeted _ hidle | served _ _ hidle =>
      exact absurd (hidle.symm.trans hcall) (by simp)
  | dismissed documents hstage => exact ⟨documents, rfl, hstage⟩

/-- Nothing is said on a connection that the session does not send on. -/
theorem Speech.methodsOn_eq_nil (hspeech : Speech session move outcome) (hguided : session.Guided)
    (hother : session.writer ≠ some connection) : methodsOn connection outcome.2 = [] := by
  have hsingle {place : ConnectionId} {method : String} (hwriter : session.writer = some place)
      (hmethods : methodsIn outcome.2 = [(place, method)]) :
      methodsOn connection outcome.2 = [] := by
    have hne : place ≠ connection := fun hsame => hother (hsame ▸ hwriter)
    rw [methodsOn_of_single hmethods, if_neg hne]
  cases hspeech with
  | mute hsilent | stay hsilent | attach hsilent | listen hsilent =>
      exact methodsOn_of_silent hsilent
  | greet _ heffects _ hbefore =>
      exact hsingle (hguided.writer_of_stage hbefore rfl id) (heffects ▸ methodsIn_request _ _ _ _)
  | confirm _ hmethods _ _ hbefore =>
      exact hsingle (hguided.writer_of_stage hbefore rfl id) hmethods
  | openDocument _ hmethods hwriter => exact hsingle hwriter hmethods
  | shutdown _ _ heffects hwriter => exact hsingle hwriter (heffects ▸ methodsIn_request _ _ _ _)
  | exit _ _ hmethods _ hwriter => exact hsingle hwriter hmethods

/-- Who is patient says what is due on the connection that the session sends on. -/
theorem Said.speak (hsaid : Said session connection methods)
    (hnext : session.next? move = some outcome) (hspeech : Speech session move outcome)
    (hguided : session.Guided) (hpatient : connection ∉ session.hastens move)
    (hsends : session.writer = some connection) :
    Said outcome.1 connection (methods ++ methodsOn connection outcome.2) := by
  have hlasts := (next?_passage hnext).lasts
  have hsame {place : ConnectionId} (hwriter : session.writer = some place) : place = connection :=
    Option.some.inj (hwriter.symm.trans hsends)
  cases hspeech with
  | mute hsilent hwriter =>
      rw [methodsOn_of_silent hsilent, List.append_nil]
      exact hsaid.leave hguided hlasts (by simp [hwriter])
  | stay hsilent hwriter hstage hcall =>
      rw [methodsOn_of_silent hsilent, List.append_nil]
      exact hsaid.stay hlasts hwriter hstage hcall
  | attach _ hnone => exact absurd (hnone.symm.trans hsends) (by simp)
  | listen hsilent _ hbefore hstage hcall =>
      obtain rfl := hsame (hguided.writer_of_stage hbefore rfl id)
      obtain ⟨rfl, hidle⟩ := hsaid.of_unmet hsends (.inl hbefore)
      rw [methodsOn_of_silent hsilent]
      exact .unmet (.inr hstage) (hcall.trans hidle)
  | @greet place request deadline params hmove heffects _ hbefore hstage hcall =>
      obtain rfl := hsame (hguided.writer_of_stage hbefore rfl id)
      obtain ⟨rfl, hidle⟩ := hsaid.of_unmet hsends (.inr hbefore)
      have hmethods := heffects ▸ methodsIn_request place request greetingMethod params
      rw [methodsOn_of_single hmethods, if_pos rfl]
      exact .greeted hstage (hcall.trans hidle)
  | confirm _ hmethods _ _ hbefore hstage hcall =>
      obtain rfl := hsame (hguided.writer_of_stage hbefore rfl id)
      obtain ⟨rfl, hidle⟩ := hsaid.of_greeted hsends hbefore
      rw [methodsOn_of_single hmethods, if_pos rfl]
      exact .served 0 hstage (hcall.trans hidle)
  | openDocument hmove hmethods hwriter hunchanged =>
      obtain rfl := hsame hwriter
      have hready := isReady_of_patient hnext hmove hmethods hpatient
      obtain ⟨documents, rfl, hstage, hcall⟩ := hsaid.of_isReady hready hwriter
      rw [hunchanged, methodsOn_of_single hmethods, if_pos rfl, opening_append]
      exact .served (documents + 1) hstage hcall
  | @shutdown place request params hmove hidle heffects hbefore _ hstage hcall =>
      obtain rfl := hsame hbefore
      have hmethods := heffects ▸ methodsIn_request place request shutdownMethod params
      have hready := isReady_of_patient hnext hmove hmethods hpatient
      obtain ⟨documents, rfl, hserving, -⟩ := hsaid.of_isReady hready hbefore
      rw [methodsOn_of_single hmethods, if_pos rfl]
      exact .dismissed documents (hstage.trans hserving) (by simp [hcall])
  | @exit place request hmove hcall hmethods hgrants hbefore hwriter =>
      obtain rfl := hsame hbefore
      obtain ⟨documents, rfl, hstage⟩ := hsaid.of_stopping hbefore hcall
      rw [methodsOn_of_single hmethods, if_pos rfl]
      refine .elsewhere (by simp [hwriter]) (mannerly_farewell documents) fun hunread => ?_
      have hupkeep := hguided.upkeep
      rw [hstage] at hupkeep
      exact absurd (hlasts.connections place hupkeep.2.2) hunread

/-- What is said on a connection on which the owner is patient is what is due there. -/
theorem Said.step (hsaid : Said session connection methods)
    (hnext : session.next? move = some outcome) (hspeech : Speech session move outcome)
    (hguided : session.Guided) (hpatient : connection ∉ session.hastens move) :
    Said outcome.1 connection (methods ++ methodsOn connection outcome.2) := by
  by_cases hsends : session.writer = some connection
  · exact hsaid.speak hnext hspeech hguided hpatient hsends
  · rw [hspeech.methodsOn_eq_nil hguided hsends, List.append_nil]
    have hleaves (hwriter : outcome.1.writer ≠ some connection) :
        Said outcome.1 connection methods :=
      hsaid.leave hguided (next?_passage hnext).lasts hwriter
    have hstays (hwriter : outcome.1.writer = session.writer) : Said outcome.1 connection methods :=
      hleaves (hwriter ▸ hsends)
    cases hspeech with
    | mute _ hwriter | exit _ _ _ _ _ hwriter => exact hleaves (by simp [hwriter])
    | stay _ hwriter | listen _ hwriter | greet _ _ hwriter | confirm _ _ _ hwriter
    | shutdown _ _ _ _ hwriter => exact hstays hwriter
    | openDocument _ _ _ hunchanged => exact hstays (congrArg writer hunchanged)
    | @attach place _ _ hunread hwriter hstage hcall =>
        by_cases hsame : place = connection
        · subst hsame
          rw [hsaid.eq_nil hguided hunread]
          exact .unmet (.inl hstage) hcall
        · exact hleaves fun hequal => hsame (Option.some.inj (hwriter.symm.trans hequal))

theorem hastens_of_silent (hnext : session.next? move = some outcome)
    (hsilent : methodsIn outcome.2 = []) : session.hastens move = [] := by
  rw [hastens]
  split
  · simp [hnext, hsilent]
  · rfl

theorem hastens_of_task (hmove : move.isWish = false) : session.hastens move = [] := by
  simp [hastens, hmove]

/-- Who is hasty breaks the order. -/
theorem Said.breaks (hsaid : Said session connection methods)
    (hnext : session.next? move = some outcome) (hspeech : Speech session move outcome)
    (hhasty : connection ∈ session.hastens move) :
    ¬Mannerly (methods ++ methodsOn connection outcome.2) := by
  have hsilent (hnone : session.hastens move = []) :
      ¬Mannerly (methods ++ methodsOn connection outcome.2) := by
    rw [hnone] at hhasty
    exact absurd hhasty List.not_mem_nil
  have hunready : session.isReady = false := by
    rw [hastens] at hhasty
    split at hhasty
    · rename_i hboth
      simpa using (Bool.and_eq_true_iff.mp hboth).2
    · exact absurd hhasty List.not_mem_nil
  have hplace {place : ConnectionId} {method : String} (hmove : move.isWish = true)
      (hmethods : methodsIn outcome.2 = [(place, method)]) : place = connection := by
    simpa [hastens, hmove, hunready, hnext, hmethods, eq_comm] using hhasty
  cases hspeech with
  | mute hnone | stay hnone | attach hnone | listen hnone =>
      exact hsilent (hastens_of_silent hnext hnone)
  | greet hmove | confirm hmove | exit hmove => exact hsilent (hastens_of_task hmove)
  | @openDocument place hmove hmethods hwriter =>
      obtain rfl := hplace hmove hmethods
      rw [methodsOn_of_single hmethods, if_pos rfl]
      cases hsaid with
      | elsewhere hother => exact absurd hwriter hother
      | unmet => exact not_mannerly_first (by decide)
      | greeted => exact not_mannerly_second (by decide)
      | served _ hstage hcall =>
          exact absurd (isReady_of_serving hstage hcall) (by simp [hunready])
      | dismissed documents => exact not_mannerly_late documents
  | @shutdown place request params hmove hidle heffects hwriter =>
      have hmethods := heffects ▸ methodsIn_request place request shutdownMethod params
      obtain rfl := hplace hmove hmethods
      rw [methodsOn_of_single hmethods, if_pos rfl]
      cases hsaid with
      | elsewhere hother => exact absurd hwriter hother
      | unmet => exact not_mannerly_first (by decide)
      | greeted => exact not_mannerly_second (by decide)
      | served _ hstage hcall =>
          exact absurd (isReady_of_serving hstage hcall) (by simp [hunready])
      | dismissed _ _ hwaits => simp [hidle] at hwaits

end Steps

section Runs

variable {profile : ClientProfile} {moves : List Move} {last : Session} {trace : List Effect}

/-- What every move keeps: where the owner was patient what was said is what is due, and elsewhere
the order is broken. -/
structure Courteous (session : Session) (trace : List Effect) (hasty : List ConnectionId) :
    Prop where
  tenure : session.Tenure
  settling : session.Settling
  said : ∀ connection, connection ∉ hasty → Said session connection (methodsOn connection trace)
  broken : ∀ connection ∈ hasty, ¬Mannerly (methodsOn connection trace)

theorem courteous_fresh (profile : ClientProfile) : Courteous (fresh profile) [] [] where
  tenure := tenure_fresh profile
  settling := settling_fresh profile
  said _ _ := .elsewhere (by simp [fresh]) mannerly_nil fun _ => rfl
  broken := by simp

theorem Courteous.step {before after : Session} {past effects : List Effect}
    {hasty : List ConnectionId} {move : Move} (hcourteous : Courteous before past hasty)
    (hseparate : before.overlaps move = false) (hmove : before.next? move = some (after, effects)) :
    Courteous after (past ++ effects) (hasty ++ before.hastens move) := by
  obtain ⟨htenure, hsettling, hsaid, hbroken⟩ := hcourteous
  have hpassage := next?_passage hmove
  have hspeech := speech_of_next? hmove htenure hsettling
  refine ⟨hpassage.tenure htenure hseparate, hpassage.settling htenure.toGuided hsettling, ?_, ?_⟩
  · intro connection hpatient
    rw [List.mem_append, not_or] at hpatient
    rw [methodsOn_append]
    exact (hsaid connection hpatient.1).step hmove hspeech htenure.toGuided hpatient.2
  · intro connection hmem
    rw [methodsOn_append]
    by_cases hearlier : connection ∈ hasty
    · exact fun hmannerly => hbroken connection hearlier hmannerly.of_append
    · have hnow := (List.mem_append.mp hmem).resolve_left hearlier
      exact (hsaid connection hearlier).breaks hmove hspeech hnow

theorem courteous_of_run (hrun : Run.follow next? (fresh profile) moves = some (last, trace))
    (hseparate : Run.tally next? overlaps (fresh profile) moves = 0) :
    Courteous last trace (Run.notes next? hastens (fresh profile) moves) :=
  Run.follow_tally_induction Courteous (courteous_fresh profile)
    (fun _ _ _ _ _ _ _ hother hcourteous hmove => hcourteous.step hother hmove) hrun hseparate

end Runs

end NplLifecycle.Session
